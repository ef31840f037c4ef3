import QueryByName.Finder.Reading
import QueryByName.Proofs.Ordered

/-! # What reading a finder name amounts to

`GreedySplit` says, without following the scan, how a text falls into words from left to right:
each word is the longest field that begins the rest, or the longest keyword if no field does,
and the fragment left over begins with no word.  A text has exactly one such split
(`exists_greedySplit`, `greedySplit_unique`), and the scan finds it (`words_eq_of_greedySplit`).

The scan never measures a word.  It takes the first one in matching order, and
`nextWord?_eq_some_iff` is where the order of the lexicon turns that into the longest one.
-/

namespace QueryByName.Finder

open QueryByName.Java (Field ClassBody)
open QueryByName.Ordered (Increasing)

/-! ## The matching order -/

instance transCmpByteSize : Std.TransCmp fun left right : String => compare right.utf8ByteSize left.utf8ByteSize :=
  inferInstanceAs (Std.TransCmp fun left right => compareOn String.utf8ByteSize right left)

instance : Std.TransCmp spellingOrder :=
  inferInstanceAs (Std.TransCmp (compareLex
    (fun left right : String => compare right.utf8ByteSize left.utf8ByteSize) compare))

instance : Std.LawfulEqCmp spellingOrder where
  compare_self := Std.ReflCmp.compare_self
  eq_of_compare {left right} same := by
    rw [spellingOrder, Ordering.then_eq_eq] at same
    exact Std.LawfulEqCmp.eq_of_compare same.2

instance : Std.TransCmp fieldOrder :=
  Ordered.transCmp_key spellingOrder Field.spelling

theorem fieldOrder_eq_iff {left right : Field} :
    fieldOrder left right = .eq ↔ left.spelling = right.spelling := by
  rw [fieldOrder]
  exact Std.LawfulEqCmp.compare_eq_iff_eq

theorem utf8ByteSize_le_of_fieldOrder_lt {left right : Field} (before : fieldOrder left right = .lt) :
    right.spelling.utf8ByteSize ≤ left.spelling.utf8ByteSize := by
  rw [fieldOrder, spellingOrder, Ordering.then_eq_lt] at before
  cases before with
  | inl shorter => exact Nat.le_of_lt (Nat.compare_eq_lt.mp shorter)
  | inr alike => exact Nat.le_of_eq (Nat.compare_eq_eq.mp alike.1)

theorem increasing_lexicon (body : ClassBody) : Increasing fieldOrder body.lexicon :=
  Ordered.increasing_ofList _

theorem mem_mentionable_of_mem_lexicon {body : ClassBody} {field : Field}
    (listed : field ∈ body.lexicon) : field ∈ body.mentionable :=
  Ordered.mem_of_mem_ofList listed

theorem exists_mem_lexicon {body : ClassBody} {field : Field} (mentioned : field ∈ body.mentionable) :
    ∃ kept ∈ body.lexicon, kept.spelling = field.spelling := by
  obtain ⟨kept, listed, same⟩ : ∃ kept ∈ body.lexicon, fieldOrder field kept = .eq :=
    Ordered.exists_mem_ofList mentioned
  exact ⟨kept, listed, (fieldOrder_eq_iff.mp same).symm⟩

theorem spelling_ne_empty {field : Field} (named : field.name ≠ "") : field.spelling ≠ "" :=
  mt Text.capitalized_eq_empty_iff.mp named

/-! ## Words at the beginning of a text -/

def Word.Begins (word : Word) (text : List Char) : Prop :=
  word.spelling.toList <+: text

theorem prefix_of_utf8ByteSize_le {left right : String} {text : List Char}
    (leftFits : left.toList <+: text) (rightFits : right.toList <+: text)
    (size : left.utf8ByteSize ≤ right.utf8ByteSize) : left.toList <+: right.toList := by
  cases Nat.le_total left.toList.length right.toList.length with
  | inl short => exact List.prefix_of_prefix_length_le leftFits rightFits short
  | inr long =>
    obtain ⟨tail, split⟩ := List.prefix_of_prefix_length_le rightFits leftFits long
    have joined : left = right ++ String.ofList tail := by
      rw [← String.toList_inj, String.toList_append, String.toList_ofList, split]
    -- the tail has no bytes, so the two are one
    have noBytes : (String.ofList tail).utf8ByteSize = 0 := by
      rw [joined, String.utf8ByteSize_append] at size
      omega
    have same : left = right := by
      rw [joined, String.utf8ByteSize_eq_zero_iff.mp noBytes, String.append_empty]
    exact same ▸ List.prefix_refl _

theorem firstWord?_eq_none_iff {text : List Char} {words : List Word} :
    firstWord? text words = none ↔ ∀ word ∈ words, ¬ word.Begins text := by
  induction words with
  | nil => simp [firstWord?]
  | cons candidate words inductionHypothesis =>
    rw [firstWord?, List.forall_mem_cons]
    cases dropped : Text.dropLead? candidate.spelling.toList text with
    | none =>
      have absent : ¬ candidate.Begins text := Text.dropLead?_eq_none_iff.mp dropped
      simpa [absent] using inductionHypothesis
    | some rest =>
      have begins : candidate.Begins text := ⟨rest, (Text.dropLead?_eq_some_iff.mp dropped).symm⟩
      simp [begins]

/-- Among words listed from many bytes to few, the first that begins a text is the longest. -/
theorem longest_of_firstWord? {text rest : List Char} {word : Word} {words : List Word}
    (descending : words.Pairwise fun earlier later =>
      later.spelling.utf8ByteSize ≤ earlier.spelling.utf8ByteSize)
    (found : firstWord? text words = some (word, rest)) :
    ∀ other ∈ words, other.Begins text → other.spelling.toList <+: word.spelling.toList := by
  -- everything passed over before the find does not begin the text
  induction words with
  | nil => cases found
  | cons candidate words inductionHypothesis =>
    obtain ⟨candidateLongest, restDescending⟩ := List.pairwise_cons.mp descending
    intro other listed begins
    rw [firstWord?] at found
    split at found
    · rename_i dropped
      obtain ⟨rfl, rfl⟩ := Prod.mk.inj (Option.some.inj found)
      have wordBegins : candidate.Begins text := ⟨_, (Text.dropLead?_eq_some_iff.mp dropped).symm⟩
      cases List.mem_cons.mp listed with
      | inl here =>
        subst here
        exact List.prefix_refl _
      | inr later => exact prefix_of_utf8ByteSize_le begins wordBegins (candidateLongest other later)
    · rename_i undropped
      cases List.mem_cons.mp listed with
      | inl here =>
        subst here
        exact absurd begins (Text.dropLead?_eq_none_iff.mp undropped)
      | inr later => exact inductionHypothesis restDescending found other later begins

/-! ## Keywords -/

theorem Keyword.mem_all (keyword : Keyword) : keyword ∈ Keyword.all := by
  cases keyword <;> decide

theorem Keyword.spelling_ne_empty (keyword : Keyword) : keyword.spelling ≠ "" := by
  cases keyword <;> decide

theorem Keyword.spelling_injective {left right : Keyword} (same : left.spelling = right.spelling) :
    left = right := by
  have distinct : ∀ left ∈ Keyword.all, ∀ right ∈ Keyword.all,
      left.spelling = right.spelling → left = right := by
    decide
  exact distinct left left.mem_all right right.mem_all same

theorem Keyword.descending_all : (Keyword.all.map Word.keyword).Pairwise fun earlier later =>
    later.spelling.utf8ByteSize ≤ earlier.spelling.utf8ByteSize := by
  decide

/-! ## The greedy choice

A choice is stated over the lexicon as a set: nothing in it depends on the order in which the
words are listed. -/

variable {lexicon : List Field}

/-- The word that a greedy reader takes off the front of a text. -/
inductive GreedyChoice (lexicon : List Field) (text : List Char) : Word → Prop where
  | field {named : Field} (listed : named ∈ lexicon) (begins : (Word.field named).Begins text)
      (longest : ∀ other ∈ lexicon, (Word.field other).Begins text →
        other.spelling.length ≤ named.spelling.length) :
      GreedyChoice lexicon text (.field named)
  | keyword {reserved : Keyword} (noField : ∀ other ∈ lexicon, ¬ (Word.field other).Begins text)
      (begins : (Word.keyword reserved).Begins text)
      (longest : ∀ other : Keyword, (Word.keyword other).Begins text →
        other.spelling.length ≤ reserved.spelling.length) :
      GreedyChoice lexicon text (.keyword reserved)

structure Stuck (lexicon : List Field) (text : List Char) : Prop where
  noField : ∀ named ∈ lexicon, ¬ (Word.field named).Begins text
  noKeyword : ∀ reserved : Keyword, ¬ (Word.keyword reserved).Begins text

theorem GreedyChoice.begins {text : List Char} {word : Word} (choice : GreedyChoice lexicon text word) :
    word.Begins text := by
  cases choice with
  | field _ begins _ => exact begins
  | keyword _ begins _ => exact begins

theorem GreedyChoice.not_stuck {text : List Char} {word : Word} (choice : GreedyChoice lexicon text word) :
    ¬ Stuck lexicon text := by
  intro stuck
  cases choice with
  | field listed begins _ => exact stuck.noField _ listed begins
  | keyword _ begins _ => exact stuck.noKeyword _ begins

theorem eq_of_begins {left right : String} {text : List Char} (leftBegins : left.toList <+: text)
    (rightBegins : right.toList <+: text) (leftShort : left.length ≤ right.length)
    (rightShort : right.length ≤ left.length) : left = right := by
  rw [← String.length_toList, ← String.length_toList] at leftShort rightShort
  have leftFirst := List.prefix_of_prefix_length_le leftBegins rightBegins leftShort
  exact String.toList_inj.mp (leftFirst.eq_of_length_le rightShort)

theorem GreedyChoice.unique (increasing : Increasing fieldOrder lexicon) {text : List Char} {left right : Word}
    (leftChoice : GreedyChoice lexicon text left) (rightChoice : GreedyChoice lexicon text right) :
    left = right := by
  cases leftChoice with
  | field leftListed leftBegins leftLongest =>
    cases rightChoice with
    | field rightListed rightBegins rightLongest =>
      have same := eq_of_begins leftBegins rightBegins (rightLongest _ leftListed leftBegins)
        (leftLongest _ rightListed rightBegins)
      -- the lexicon holds one field for each spelling
      rw [increasing.eq_of_compare leftListed rightListed (fieldOrder_eq_iff.mpr same)]
    | keyword noField _ _ => exact absurd leftBegins (noField _ leftListed)
  | keyword noField leftBegins leftLongest =>
    cases rightChoice with
    | field rightListed rightBegins _ => exact absurd rightBegins (noField _ rightListed)
    | keyword _ rightBegins rightLongest =>
      have same := eq_of_begins leftBegins rightBegins (rightLongest _ leftBegins)
        (leftLongest _ rightBegins)
      rw [Keyword.spelling_injective same]

/-! ## One step of the scan -/

theorem descending_of_increasing (increasing : Increasing fieldOrder lexicon) :
    (lexicon.map Word.field).Pairwise fun earlier later =>
      later.spelling.utf8ByteSize ≤ earlier.spelling.utf8ByteSize := by
  rw [List.pairwise_map]
  exact increasing.imp utf8ByteSize_le_of_fieldOrder_lt

theorem nextWord?_eq_none_iff {text : List Char} : nextWord? lexicon text = none ↔ Stuck lexicon text := by
  rw [nextWord?, Option.or_eq_none_iff, firstWord?_eq_none_iff, firstWord?_eq_none_iff, List.forall_mem_map,
    List.forall_mem_map]
  constructor
  · intro nothing
    obtain ⟨noField, noKeyword⟩ := nothing
    exact ⟨noField, fun reserved => noKeyword reserved reserved.mem_all⟩
  · intro stuck
    exact ⟨stuck.noField, fun reserved _ => stuck.noKeyword reserved⟩

theorem greedyChoice_of_nextWord? (increasing : Increasing fieldOrder lexicon) {text rest : List Char} {word : Word}
    (found : nextWord? lexicon text = some (word, rest)) : GreedyChoice lexicon text word := by
  rw [nextWord?] at found
  cases fieldFound : firstWord? text (lexicon.map .field) with
  | some taken =>
    rw [fieldFound, Option.some_or] at found
    -- a field was found, so keywords were not looked at
    obtain rfl := Option.some.inj found
    obtain ⟨listed, split⟩ := firstWord?_eq_some fieldFound
    obtain ⟨named, inLexicon, rfl⟩ := List.mem_map.mp listed
    refine .field inLexicon ⟨rest, split.symm⟩ fun other otherListed begins => ?_
    have shorter := longest_of_firstWord? (descending_of_increasing increasing) fieldFound (.field other)
      (List.mem_map_of_mem otherListed) begins
    simpa only [Word.spelling, String.length_toList] using shorter.length_le
  | none =>
    rw [fieldFound, Option.none_or] at found
    have noField := firstWord?_eq_none_iff.mp fieldFound
    obtain ⟨listed, split⟩ := firstWord?_eq_some found
    obtain ⟨reserved, _, rfl⟩ := List.mem_map.mp listed
    refine .keyword (fun other inLexicon => noField _ (List.mem_map_of_mem inLexicon))
      ⟨rest, split.symm⟩ fun other begins => ?_
    have shorter := longest_of_firstWord? Keyword.descending_all found (.keyword other)
      (List.mem_map_of_mem other.mem_all) begins
    simpa only [Word.spelling, String.length_toList] using shorter.length_le

theorem nextWord?_eq_some_iff (increasing : Increasing fieldOrder lexicon) {text rest : List Char} {word : Word} :
    nextWord? lexicon text = some (word, rest) ↔
      GreedyChoice lexicon text word ∧ text = word.spelling.toList ++ rest := by
  constructor
  · intro found
    exact ⟨greedyChoice_of_nextWord? increasing found, (nextWord?_eq_some found).2⟩
  · intro chosen
    obtain ⟨choice, split⟩ := chosen
    cases found : nextWord? lexicon text with
    | none => exact absurd (nextWord?_eq_none_iff.mp found) choice.not_stuck
    | some taken =>
      obtain rfl := choice.unique increasing (greedyChoice_of_nextWord? increasing found)
      have sameRest := (nextWord?_eq_some found).2.symm.trans split
      rw [← List.append_cancel_left sameRest]

/-- Fields with letters and keywords take letters off a text. -/
theorem length_lt_of_nextWord? (spelled : ∀ field ∈ lexicon, field.spelling ≠ "") {text rest : List Char}
    {word : Word} (found : nextWord? lexicon text = some (word, rest)) : rest.length < text.length := by
  obtain ⟨listed, rfl⟩ := nextWord?_eq_some found
  have letters : word.spelling ≠ "" := by
    cases List.mem_append.mp listed with
    | inl inLexicon =>
      obtain ⟨field, present, rfl⟩ := List.mem_map.mp inLexicon
      exact spelled field present
    | inr reserved =>
      obtain ⟨keyword, _, rfl⟩ := List.mem_map.mp reserved
      exact keyword.spelling_ne_empty
  have positive : 0 < word.spelling.toList.length := by
    rw [List.length_pos_iff, Ne, String.toList_eq_nil_iff]
    exact letters
  rw [List.length_append]
  omega

/-! ## The whole scan -/

/-- How a text falls into greedily chosen words and a fragment that begins with no word. -/
inductive GreedySplit (lexicon : List Field) : List Char → List Word → List Char → Prop where
  | ended {text : List Char} (finished : text = [] ∨ Stuck lexicon text) : GreedySplit lexicon text [] text
  | word {text rest fragment : List Char} {word : Word} {words : List Word}
      (choice : GreedyChoice lexicon text word) (split : text = word.spelling.toList ++ rest)
      (further : GreedySplit lexicon rest words fragment) : GreedySplit lexicon text (word :: words) fragment

def rowText (words : List Word) : String :=
  String.join (words.map Word.spelling)

@[simp] theorem rowText_nil : rowText [] = "" := rfl

@[simp] theorem rowText_cons (word : Word) (words : List Word) :
    rowText (word :: words) = word.spelling ++ rowText words := by
  simp [rowText]

@[simp] theorem rowText_append (words further : List Word) :
    rowText (words ++ further) = rowText words ++ rowText further := by
  simp [rowText]

/-- A split neither loses nor invents a character. -/
theorem GreedySplit.text_eq {text fragment : List Char} {words : List Word}
    (split : GreedySplit lexicon text words fragment) : text = (rowText words).toList ++ fragment := by
  induction split with
  | ended _ => simp
  | word _ split _ inductionHypothesis =>
    rw [split, inductionHypothesis, rowText_cons, String.toList_append, List.append_assoc]

theorem not_greedyChoice_nil (spelled : ∀ field ∈ lexicon, field.spelling ≠ "") {word : Word} :
    ¬ GreedyChoice lexicon [] word := by
  intro choice
  cases choice with
  | field listed begins _ =>
    exact spelled _ listed (String.toList_eq_nil_iff.mp (List.prefix_nil.mp begins))
  | keyword _ begins _ =>
    exact Keyword.spelling_ne_empty _ (String.toList_eq_nil_iff.mp (List.prefix_nil.mp begins))

theorem greedySplit_unique (increasing : Increasing fieldOrder lexicon)
    (spelled : ∀ field ∈ lexicon, field.spelling ≠ "") {text fragment otherFragment : List Char}
    {words otherWords : List Word} (split : GreedySplit lexicon text words fragment)
    (otherSplit : GreedySplit lexicon text otherWords otherFragment) :
    otherWords = words ∧ otherFragment = fragment := by
  -- both splits end at once or go on with the same word, so the rests have splits to compare
  induction split generalizing otherWords otherFragment with
  | ended finished =>
    cases otherSplit with
    | ended _ => exact ⟨rfl, rfl⟩
    | word choice _ _ =>
      cases finished with
      | inl here =>
        subst here
        exact absurd choice (not_greedyChoice_nil spelled)
      | inr stuck => exact absurd stuck choice.not_stuck
  | word choice split _ inductionHypothesis =>
    cases otherSplit with
    | ended finished =>
      cases finished with
      | inl here =>
        subst here
        exact absurd choice (not_greedyChoice_nil spelled)
      | inr stuck => exact absurd stuck choice.not_stuck
    | word otherChoice otherText otherFurther =>
      obtain rfl := choice.unique increasing otherChoice
      obtain rfl := List.append_cancel_left (otherText.symm.trans split)
      obtain ⟨rfl, rfl⟩ := inductionHypothesis otherFurther
      exact ⟨rfl, rfl⟩

theorem exists_greedySplit (increasing : Increasing fieldOrder lexicon)
    (spelled : ∀ field ∈ lexicon, field.spelling ≠ "") (text : List Char) :
    ∃ words fragment, GreedySplit lexicon text words fragment := by
  cases found : nextWord? lexicon text with
  | none => exact ⟨[], text, .ended (.inr (nextWord?_eq_none_iff.mp found))⟩
  | some taken =>
    obtain ⟨choice, split⟩ := (nextWord?_eq_some_iff increasing).mp found
    obtain ⟨words, fragment, further⟩ := exists_greedySplit increasing spelled taken.2
    exact ⟨taken.1 :: words, fragment, .word choice split further⟩
termination_by text.length
decreasing_by exact length_lt_of_nextWord? spelled found

theorem words_eq_of_greedySplit (increasing : Increasing fieldOrder lexicon)
    (spelled : ∀ field ∈ lexicon, field.spelling ≠ "") {text fragment : List Char} {found : List Word}
    (split : GreedySplit lexicon text found fragment) :
    words lexicon text = some (if fragment = [] then .ok found else .error fragment) := by
  induction split with
  | @ended text finished =>
    by_cases nonempty : text = []
    · simp [nonempty]
    · have stopped := nextWord?_eq_none_iff.mpr (finished.resolve_left nonempty)
      rw [words_of_stopped nonempty stopped, if_neg nonempty]
  | @word text rest fragment word further choice split _ inductionHypothesis =>
    have nonempty : text ≠ [] := by
      rintro rfl
      exact not_greedyChoice_nil spelled choice
    have taken := (nextWord?_eq_some_iff increasing).mpr ⟨choice, split⟩
    rw [words_of_taken nonempty taken, inductionHypothesis]
    by_cases finished : fragment = []
    · simp [finished, Except.map]
    · simp [finished, Except.map]

/-! ## Names -/

/-- Whether a name says `text` once one lead is taken off its front, if it has one. -/
def IsBody (plural finder text : String) : Prop :=
  finder = lead plural ++ text ∨ (¬ (lead plural).toList <+: finder.toList ∧ text = finder)

theorem isBody_iff {plural finder text : String} :
    IsBody plural finder text ↔ text = withoutLead plural finder := by
  rw [withoutLead]
  cases dropped : Text.afterLead? (lead plural) finder with
  | some rest =>
    have split := Text.afterLead?_eq_some_iff.mp dropped
    constructor
    · intro isBody
      cases isBody with
      | inl whole => exact (String.append_right_inj _).mp (whole.symm.trans split)
      | inr unled =>
        rw [Text.afterLead?_eq_none_iff.mpr unled.1] at dropped
        cases dropped
    · intro same
      rw [same]
      exact .inl split
  | none =>
    have absent := Text.afterLead?_eq_none_iff.mp dropped
    constructor
    · intro isBody
      cases isBody with
      | inl whole =>
        rw [Text.afterLead?_eq_some_iff.mpr whole] at dropped
        cases dropped
      | inr unled => exact unled.2
    · intro same
      exact .inr ⟨absent, same⟩

theorem lexicon_spelled {body : ClassBody} (named : ∀ field ∈ body.mentionable, field.name ≠ "") :
    ∀ field ∈ body.lexicon, field.spelling ≠ "" :=
  fun field listed => spelling_ne_empty (named field (mem_mentionable_of_mem_lexicon listed))

section Names

variable {body : ClassBody} {plural finder text : String}

theorem read_of_repeatedLead (isBody : IsBody plural finder text)
    (occurs : (lead plural).toList <:+: text.toList) :
    read body finder plural = some (.error (.repeatedLead finder (lead plural))) := by
  obtain rfl := isBody_iff.mp isBody
  rw [read, if_pos (Text.contains_iff.mpr occurs)]

theorem read_of_greedySplit (named : ∀ field ∈ body.mentionable, field.name ≠ "")
    (isBody : IsBody plural finder text) (once : ¬ (lead plural).toList <:+: text.toList)
    {found : List Word} {fragment : String}
    (split : GreedySplit body.lexicon text.toList found fragment.toList) :
    read body finder plural =
      some (if fragment = "" then .ok found else .error (.unmatched finder fragment body.owner.simpleName)) := by
  obtain rfl := isBody_iff.mp isBody
  rw [read, if_neg (mt Text.contains_iff.mp once),
    words_eq_of_greedySplit (increasing_lexicon body) (lexicon_spelled named) split]
  by_cases finished : fragment = ""
  · simp [finished, answer]
  · simp [finished, answer]

theorem exists_fragment (named : ∀ field ∈ body.mentionable, field.name ≠ "") (text : String) :
    ∃ (found : List Word) (fragment : String),
      GreedySplit body.lexicon text.toList found fragment.toList := by
  obtain ⟨found, letters, split⟩ :=
    exists_greedySplit (increasing_lexicon body) (lexicon_spelled named) text.toList
  refine ⟨found, String.ofList letters, ?_⟩
  rwa [String.toList_ofList]

theorem read_eq_ok_iff (named : ∀ field ∈ body.mentionable, field.name ≠ "")
    (isBody : IsBody plural finder text) {found : List Word} :
    read body finder plural = some (.ok found) ↔
      ¬ (lead plural).toList <:+: text.toList ∧ GreedySplit body.lexicon text.toList found [] := by
  constructor
  · intro accepted
    have once : ¬ (lead plural).toList <:+: text.toList := by
      intro occurs
      rw [read_of_repeatedLead isBody occurs] at accepted
      cases accepted
    obtain ⟨chosen, fragment, split⟩ := exists_fragment named text
    rw [read_of_greedySplit named isBody once split] at accepted
    by_cases finished : fragment = ""
    · rw [if_pos finished] at accepted
      -- the reading ends without a fragment, and its split is the one that was accepted
      obtain rfl := Except.ok.inj (Option.some.inj accepted)
      rw [finished] at split
      exact ⟨once, split⟩
    · rw [if_neg finished] at accepted
      cases accepted
  · intro reading
    obtain ⟨once, split⟩ := reading
    have whole : GreedySplit body.lexicon text.toList found ("" : String).toList := split
    rw [read_of_greedySplit named isBody once whole, if_pos rfl]

theorem rowText_eq_of_read_eq_ok (named : ∀ field ∈ body.mentionable, field.name ≠ "")
    (isBody : IsBody plural finder text) {found : List Word} (accepted : read body finder plural = some (.ok found)) :
    rowText found = text := by
  obtain ⟨_, split⟩ := (read_eq_ok_iff named isBody).mp accepted
  rw [← String.toList_inj, split.text_eq, List.append_nil]

/-- Everything about the reading of a name that says `text` after its lead. -/
structure GreedyReading (body : ClassBody) (finder plural text : String) : Prop where
  isBody : IsBody plural finder text
  repeated : (lead plural).toList <:+: text.toList →
    read body finder plural = some (.error (.repeatedLead finder (lead plural)))
  split : ¬ (lead plural).toList <:+: text.toList → ∃ found fragment,
    GreedySplit body.lexicon text.toList found fragment.toList ∧
    (∀ otherFound otherFragment, GreedySplit body.lexicon text.toList otherFound otherFragment →
      otherFound = found ∧ otherFragment = fragment.toList) ∧
    read body finder plural =
      some (if fragment = "" then .ok found else .error (.unmatched finder fragment body.owner.simpleName))
  lossless : ∀ found, read body finder plural = some (.ok found) → rowText found = text

/-- Reading a name is its one greedy split. -/
theorem exists_greedyReading (body : ClassBody) (named : ∀ field ∈ body.mentionable, field.name ≠ "")
    (finder plural : String) : ∃ text, GreedyReading body finder plural text := by
  have isBody : IsBody plural finder (withoutLead plural finder) := isBody_iff.mpr rfl
  refine ⟨withoutLead plural finder, isBody, read_of_repeatedLead isBody, ?_, ?_⟩
  · intro once
    obtain ⟨found, fragment, split⟩ := exists_fragment named (withoutLead plural finder)
    refine ⟨found, fragment, split, ?_, read_of_greedySplit named isBody once split⟩
    intro otherFound otherFragment otherSplit
    exact greedySplit_unique (increasing_lexicon body) (lexicon_spelled named) split otherSplit
  · intro found accepted
    exact rowText_eq_of_read_eq_ok named isBody accepted

end Names

/-- A bean in which one field begins another, and a keyword begins a third. -/
def overlappingBean : ClassBody :=
  .bean (.named "com.example.Person")
    [⟨"name", .named "java.lang.String", false, false, []⟩,
      ⟨"nameSuffix", .named "java.lang.String", false, false, []⟩,
      ⟨"notes", .named "java.lang.String", false, false, []⟩]

theorem exists_greedyReading_overlapping : (∀ field ∈ overlappingBean.mentionable, field.name ≠ "") ∧
    ∃ text, GreedyReading overlappingBean "findPeopleByNameSuffixLikeAndNotesI" "People" text :=
  ⟨by decide, exists_greedyReading overlappingBean (by decide) _ _⟩

end QueryByName.Finder
