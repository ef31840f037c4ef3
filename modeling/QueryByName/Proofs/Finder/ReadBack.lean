import Mathlib.Data.List.Chain
import Mathlib.Data.List.Forall2
import QueryByName.Proofs.Finder.BuiltNames

/-! # Reading built names back

A built name is read back as the phrase it was spelled from exactly if no field of the lexicon
*shadows* a word of that phrase: at no field of the phrase does a longer field begin the rest of
the text, and at no keyword does any field begin it (`readAs_iff_not_shadowed`).  Keywords cannot
shadow each other, because the only way for one to continue another is by `Equals`, and after
the shorter one a phrase goes on with a connective or not at all.

Whether a field is shadowed depends on the whole rest of the name.  `ClashFree` is a condition on
the spellings of the lexicon alone that excludes every shadow (`ClashFree.not_shadowed`).
-/

namespace QueryByName.Finder

open QueryByName.Java (Field ClassBody)
open QueryByName.Ordered (Increasing)

variable {lexicon : List Field}

/-! ## Shadows -/

/-- Whether a field of the lexicon would be read in place of a word before further words. -/
def ShadowedBefore (lexicon : List Field) (word : Word) (rest : List Word) : Prop :=
  ∃ other ∈ lexicon, (Word.field other).Begins (rowText (word :: rest)).toList ∧
    match word with
    | .field named => named.spelling.length < other.spelling.length
    | .keyword _ => True

def Shadowed (lexicon : List Field) : List Word → Prop
  | [] => False
  | word :: rest => ShadowedBefore lexicon word rest ∨ Shadowed lexicon rest

/-- Whether two rows hold the same words, where fields of one spelling count as the same. -/
def SameWords (words found : List Word) : Prop :=
  List.Forall₂ (fun word read => word.sameAs read = true) words found

def ReadAs (lexicon : List Field) (words : List Word) : Prop :=
  ∃ found, GreedySplit lexicon (rowText words).toList found [] ∧ SameWords words found

theorem spelling_eq_of_sameAs {word read : Word} (same : word.sameAs read = true) :
    word.spelling = read.spelling := by
  cases word with
  | field named =>
    cases read with
    | field other => exact beq_iff_eq.mp same
    | keyword _ => cases same
  | keyword reserved =>
    cases read with
    | field _ => cases same
    | keyword other => rw [beq_iff_eq.mp same]

theorem not_shadowed_of_greedySplit {words found : List Word}
    (same : SameWords words found)
    (split : GreedySplit lexicon (rowText words).toList found []) : ¬ Shadowed lexicon words := by
  induction same with
  | nil => exact id
  | @cons word read words found sameWord _ inductionHypothesis =>
    cases split with
    | word choice text_eq further =>
      have sameSpelling := spelling_eq_of_sameAs sameWord
      rw [rowText_cons, String.toList_append, sameSpelling] at text_eq
      rw [← List.append_cancel_left text_eq] at further
      intro shadowed
      cases shadowed with
      | inr later => exact inductionHypothesis further later
      | inl here =>
        obtain ⟨other, listed, begins, longer⟩ := here
        -- the word that was read is the greedy choice, so no field can be in its way
        cases choice with
        | field _ _ longest =>
          cases word with
          | keyword _ => cases sameWord
          | field named =>
            have bound := longest other listed begins
            have sameLength : named.spelling.length = _ := congrArg String.length sameSpelling
            simp only [Word.spelling] at longer sameLength
            omega
        | keyword noField _ _ => exact noField other listed begins

theorem shadowed_append_right {words rest : List Word} (shadowed : Shadowed lexicon rest) :
    Shadowed lexicon (words ++ rest) := by
  induction words with
  | nil => exact shadowed
  | cons word words inductionHypothesis => exact .inr inductionHypothesis

/-! ## Reading a phrase without shadows -/

/-- One keyword begins another only if the longer one goes on with `Equals`. -/
theorem Keyword.eq_or_equals_of_prefix {shorter longer : Keyword}
    (begins : shorter.spelling.toList <+: longer.spelling.toList) :
    longer = shorter ∨
      shorter.isConnective = false ∧ longer.spelling.toList = shorter.spelling.toList ++ "Equals".toList := by
  have checked : ∀ shorter ∈ Keyword.all, ∀ longer ∈ Keyword.all,
      shorter.spelling.toList <+: longer.spelling.toList → longer = shorter ∨
        shorter.isConnective = false ∧ longer.spelling.toList = shorter.spelling.toList ++ "Equals".toList := by
    decide
  exact checked shorter shorter.mem_all longer longer.mem_all begins

theorem Keyword.longest_of_stops {reserved other : Keyword} {rest : List Char}
    (stops : reserved.isConnective = true ∨ ¬ "Equals".toList <+: rest)
    (begins : other.spelling.toList <+: reserved.spelling.toList ++ rest) :
    other.spelling.length ≤ reserved.spelling.length := by
  rw [← String.length_toList, ← String.length_toList]
  cases Nat.le_total other.spelling.toList.length reserved.spelling.toList.length with
  | inl short => exact short
  | inr long =>
    -- the shorter keyword begins the other one, so they are the same or the other goes on with `Equals`
    have within := List.prefix_of_prefix_length_le (List.prefix_append _ rest) begins long
    cases Keyword.eq_or_equals_of_prefix within with
    | inl same =>
      subst same
      exact Nat.le_refl _
    | inr continued =>
      obtain ⟨plain, split⟩ := continued
      rw [split, List.prefix_append_right_inj] at begins
      cases stops with
      | inl connects => rw [plain] at connects; cases connects
      | inr stops => exact absurd begins stops

theorem readAs_nil : ReadAs lexicon [] :=
  ⟨[], .ended (.inl rfl), .nil⟩

theorem readAs_cons_field {named : Field} {rest : List Word}
    (listed : ∃ kept ∈ lexicon, kept.spelling = named.spelling)
    (clear : ¬ ShadowedBefore lexicon (.field named) rest) (further : ReadAs lexicon rest) :
    ReadAs lexicon (.field named :: rest) := by
  obtain ⟨kept, inLexicon, sameSpelling⟩ := listed
  obtain ⟨found, split, same⟩ := further
  have text_eq : (rowText (.field named :: rest)).toList = kept.spelling.toList ++ (rowText rest).toList := by
    rw [rowText_cons, String.toList_append, Word.spelling, sameSpelling]
  -- the lexicon may hold another field of that spelling, and it is the one that is read
  refine ⟨.field kept :: found, .word ?_ text_eq split, .cons (beq_iff_eq.mpr sameSpelling.symm) same⟩
  refine .field inLexicon ⟨_, text_eq.symm⟩ fun other otherListed begins => ?_
  rw [sameSpelling]
  exact Nat.le_of_not_lt fun longer => clear ⟨other, otherListed, begins, longer⟩

theorem readAs_cons_keyword {reserved : Keyword} {rest : List Word}
    (stops : reserved.isConnective = true ∨ ¬ "Equals".toList <+: (rowText rest).toList)
    (clear : ¬ ShadowedBefore lexicon (.keyword reserved) rest) (further : ReadAs lexicon rest) :
    ReadAs lexicon (.keyword reserved :: rest) := by
  obtain ⟨found, split, same⟩ := further
  have text_eq : (rowText (.keyword reserved :: rest)).toList =
      reserved.spelling.toList ++ (rowText rest).toList := by
    rw [rowText_cons, String.toList_append, Word.spelling]
  refine ⟨.keyword reserved :: found, .word ?_ text_eq split, .cons (beq_iff_eq.mpr rfl) same⟩
  refine .keyword (fun other listed begins => clear ⟨other, listed, begins, trivial⟩) ⟨_, text_eq.symm⟩ ?_
  intro other begins
  rw [Word.Begins, text_eq] at begins
  exact Keyword.longest_of_stops stops begins

theorem readAs_clause {clause : Clause} {rest : List Word}
    (listed : ∃ kept ∈ lexicon, kept.spelling = clause.field.spelling)
    (stops : ¬ "Equals".toList <+: (rowText rest).toList)
    (clear : ¬ Shadowed lexicon (clause.words ++ rest)) (further : ReadAs lexicon rest) :
    ReadAs lexicon (clause.words ++ rest) := by
  rw [Clause.words] at clear ⊢
  cases operator : clause.keyword? with
  | none =>
    rw [operator] at clear
    exact readAs_cons_field listed (fun here => clear (.inl here)) further
  | some keyword =>
    rw [operator] at clear
    have withKeyword : ReadAs lexicon (.keyword keyword :: rest) :=
      readAs_cons_keyword (.inr stops) (fun here => clear (.inr (.inl here))) further
    exact readAs_cons_field listed (fun here => clear (.inl here)) withKeyword

theorem not_equals_prefix_connective (connective : Connective) (rest : List Char) :
    ¬ "Equals".toList <+: connective.val.spelling.toList ++ rest := by
  obtain ⟨joining, connects⟩ := connective
  cases joining <;> cases connects <;> simp [Keyword.spelling]

theorem readAs_of_not_shadowed (first : Clause) (further : List (Connective × Clause))
    (listed : ∀ clause ∈ first :: further.map Prod.snd,
      ∃ kept ∈ lexicon, kept.spelling = clause.field.spelling)
    (clear : ¬ Shadowed lexicon (first.words ++ further.flatMap joinedWords)) :
    ReadAs lexicon (first.words ++ further.flatMap joinedWords) := by
  -- from the last clause back: what is read after a clause is the rest of the phrase, read before
  induction further generalizing first with
  | nil =>
    refine readAs_clause (listed first List.mem_cons_self) ?_ clear readAs_nil
    simp
  | cons joined further inductionHypothesis =>
    obtain ⟨connective, next⟩ := joined
    obtain ⟨firstListed, furtherListed⟩ := List.forall_mem_cons.mp listed
    have restClear := mt shadowed_append_right clear
    have nextRead := inductionHypothesis next furtherListed (mt .inr restClear)
    have restRead : ReadAs lexicon (.keyword connective.val :: (next.words ++ further.flatMap joinedWords)) :=
      readAs_cons_keyword (.inl connective.property) (mt .inl restClear) nextRead
    refine readAs_clause firstListed ?_ clear restRead
    show ¬ "Equals".toList <+: (rowText (.keyword connective.val :: (next.words ++ further.flatMap joinedWords))).toList
    rw [rowText_cons, String.toList_append]
    exact not_equals_prefix_connective connective _

theorem Phrase.words_of_complete {phrase : Phrase} (complete : phrase.trailing = none) :
    phrase.words = phrase.first.words ++ phrase.further.flatMap joinedWords := by
  simp [words, complete, connectiveWords]

theorem readAs_iff_not_shadowed {phrase : Phrase} (complete : phrase.trailing = none)
    (listed : ∀ clause ∈ phrase.members, ∃ kept ∈ lexicon, kept.spelling = clause.field.spelling) :
    ReadAs lexicon phrase.words ↔ ¬ Shadowed lexicon phrase.words := by
  constructor
  · intro readable
    obtain ⟨found, split, same⟩ := readable
    exact not_shadowed_of_greedySplit same split
  · rw [Phrase.words_of_complete complete]
    exact readAs_of_not_shadowed phrase.first phrase.further listed

/-! ## Clash-free spellings -/

def Comparable (left right : String) : Prop :=
  left.toList <+: right.toList ∨ right.toList <+: left.toList

instance (left right : String) : Decidable (Comparable left right) :=
  inferInstanceAs (Decidable (_ ∨ _))

/-- A condition on the spellings of fields under which no field is ever read in place of a word. -/
structure ClashFree (literals : List String) : Prop where
  /-- What one field has beyond another could not stand at the beginning of a keyword. -/
  beyondFields : ∀ shorter ∈ literals, ∀ tail, shorter ++ tail ∈ literals → shorter ++ tail ≠ shorter →
    ∀ reserved : Keyword, ¬ Comparable tail reserved.spelling
  /-- No field begins a keyword. -/
  outsideKeywords : ∀ literal ∈ literals, ∀ reserved : Keyword,
    ¬ literal.toList <+: reserved.spelling.toList
  /-- What a field has beyond a keyword could not stand at the beginning of what follows one. -/
  beyondKeywords : ∀ (reserved : Keyword) (tail : String), tail ≠ "" → reserved.spelling ++ tail ∈ literals →
    ¬ Comparable tail Keyword.and.spelling ∧ ¬ Comparable tail Keyword.or.spelling ∧
      ∀ literal ∈ literals, ¬ Comparable tail literal

theorem clashFree_iff {literals : List String} : ClashFree literals ↔
    (∀ shorter ∈ literals, ∀ longer ∈ literals, longer ≠ shorter →
      ∀ tail ∈ Text.afterLead? shorter longer, ∀ reserved ∈ Keyword.all, ¬ Comparable tail reserved.spelling) ∧
    (∀ literal ∈ literals, ∀ reserved ∈ Keyword.all, ¬ literal.toList <+: reserved.spelling.toList) ∧
    (∀ reserved ∈ Keyword.all, ∀ longer ∈ literals,
      ∀ tail ∈ Text.afterLead? reserved.spelling longer, tail ≠ "" →
        ¬ Comparable tail Keyword.and.spelling ∧ ¬ Comparable tail Keyword.or.spelling ∧
          ∀ literal ∈ literals, ¬ Comparable tail literal) := by
  constructor
  · intro clashFree
    refine ⟨?_, fun literal listed reserved _ => clashFree.outsideKeywords literal listed reserved, ?_⟩
    · intro shorter shorterListed longer longerListed different tail split reserved _
      obtain rfl := Text.afterLead?_eq_some_iff.mp split
      exact clashFree.beyondFields shorter shorterListed tail longerListed different reserved
    · intro reserved _ longer listed tail split nonempty
      obtain rfl := Text.afterLead?_eq_some_iff.mp split
      exact clashFree.beyondKeywords reserved tail nonempty listed
  · intro checked
    obtain ⟨beyondFields, outsideKeywords, beyondKeywords⟩ := checked
    refine ⟨?_, fun literal listed reserved => outsideKeywords literal listed reserved reserved.mem_all, ?_⟩
    · intro shorter shorterListed tail longerListed different reserved
      have split := Text.afterLead?_eq_some_iff.mpr (Eq.refl (shorter ++ tail))
      exact beyondFields shorter shorterListed _ longerListed different tail split reserved reserved.mem_all
    · intro reserved tail nonempty listed
      have split := Text.afterLead?_eq_some_iff.mpr (Eq.refl (reserved.spelling ++ tail))
      exact beyondKeywords reserved reserved.mem_all _ listed tail split nonempty

instance (literals : List String) : Decidable (ClashFree literals) :=
  decidable_of_iff _ clashFree_iff.symm

theorem exists_beyond_of_prefix {shorter longer : String} {rest : List Char}
    (begins : longer.toList <+: shorter.toList ++ rest) :
    longer.toList <+: shorter.toList ∨
      ∃ tail, tail ≠ "" ∧ longer = shorter ++ tail ∧ tail.toList <+: rest := by
  cases Nat.le_total longer.toList.length shorter.toList.length with
  | inl short => exact .inl (List.prefix_of_prefix_length_le begins (List.prefix_append _ rest) short)
  | inr long =>
    obtain ⟨tail, split⟩ := List.prefix_of_prefix_length_le (List.prefix_append _ rest) begins long
    by_cases nothing : tail = []
    · rw [nothing, List.append_nil] at split
      apply Or.inl
      exact split ▸ List.prefix_refl _
    · refine .inr ⟨String.ofList tail, ?_, ?_, ?_⟩
      · intro empty
        rw [← String.toList_inj, String.toList_ofList] at empty
        exact nothing empty
      · rw [← String.toList_inj, String.toList_append, String.toList_ofList, split]
      · rw [String.toList_ofList]
        rwa [← split, List.prefix_append_right_inj] at begins

theorem comparable_of_prefix_append {tail next : String} {rest : List Char}
    (begins : tail.toList <+: next.toList ++ rest) : Comparable tail next := by
  cases exists_beyond_of_prefix begins with
  | inl within => exact .inl within
  | inr beyond =>
    obtain ⟨further, _, rfl, _⟩ := beyond
    refine .inr ⟨further.toList, ?_⟩
    rw [String.toList_append]

def MayFollow : Word → Word → Prop
  | .field _, .field _ => False
  | .field _, .keyword _ => True
  | .keyword _, .field _ => True
  | .keyword _, .keyword next => next.isConnective = true

theorem Clause.isChain_words_append (clause : Clause) {rest : List Word} (chain : rest.IsChain MayFollow)
    (joined : ∀ next ∈ rest.head?, ∃ connective : Connective, next = .keyword connective.val) :
    (clause.words ++ rest).IsChain MayFollow := by
  have afterKeyword (reserved : Keyword) : (.keyword reserved :: rest).IsChain MayFollow := by
    refine List.isChain_cons.mpr ⟨fun next first => ?_, chain⟩
    obtain ⟨connective, rfl⟩ := joined next first
    exact connective.property
  have afterField : (.field clause.field :: rest).IsChain MayFollow := by
    refine List.isChain_cons.mpr ⟨fun next first => ?_, chain⟩
    obtain ⟨connective, rfl⟩ := joined next first
    trivial
  rw [Clause.words]
  cases clause.keyword? with
  | none => exact afterField
  | some keyword =>
    show (Word.field clause.field :: .keyword keyword :: rest).IsChain MayFollow
    exact .cons_cons trivial (afterKeyword keyword)

theorem isChain_words (first : Clause) (further : List (Connective × Clause)) :
    (first.words ++ further.flatMap joinedWords).IsChain MayFollow := by
  induction further generalizing first with
  | nil => exact first.isChain_words_append .nil nofun
  | cons joined further inductionHypothesis =>
    obtain ⟨connective, next⟩ := joined
    have restChain : (Word.keyword connective.val :: (next.words ++ further.flatMap joinedWords)).IsChain MayFollow :=
      .cons_cons trivial (inductionHypothesis next)
    apply first.isChain_words_append restChain
    rintro _ ⟨rfl⟩
    exact ⟨connective, rfl⟩

namespace ClashFree

theorem not_shadowedBefore (clashFree : ClashFree (lexicon.map Field.spelling)) {word : Word} {rest : List Word}
    (listed : ∀ field, .field field ∈ word :: rest → field.spelling ∈ lexicon.map Field.spelling)
    (follows : ∀ next ∈ rest.head?, MayFollow word next) : ¬ ShadowedBefore lexicon word rest := by
  intro shadowed
  obtain ⟨other, otherListed, begins, longer⟩ := shadowed
  have otherSpelling : other.spelling ∈ lexicon.map Field.spelling := List.mem_map_of_mem otherListed
  rw [Word.Begins, rowText_cons, String.toList_append] at begins
  cases exists_beyond_of_prefix begins with
  | inl within =>
    -- the other field ends within the word
    cases word with
    | field named =>
      have short : other.spelling.toList.length ≤ named.spelling.toList.length := within.length_le
      rw [String.length_toList, String.length_toList] at short
      exact Nat.not_lt.mpr short longer
    | keyword reserved => exact clashFree.outsideKeywords _ otherSpelling reserved within
  | inr beyond =>
    -- the other field goes on beyond the word, and its tail begins what follows
    obtain ⟨tail, nonempty, split, tailBegins⟩ := beyond
    have goesOn : word.spelling ++ tail ∈ lexicon.map Field.spelling := split ▸ otherSpelling
    cases rest with
    | nil =>
      -- nothing follows, so there is nothing for the tail to stand in
      exact nonempty (String.toList_eq_nil_iff.mp (List.prefix_nil.mp tailBegins))
    | cons next rest =>
      rw [rowText_cons, String.toList_append] at tailBegins
      have clash := comparable_of_prefix_append tailBegins
      have following := follows next rfl
      cases word with
      | field named =>
        cases next with
        | field _ => exact following
        | keyword reserved =>
          refine clashFree.beyondFields _ (listed named List.mem_cons_self) tail goesOn ?_ reserved clash
          exact fun same => nonempty (String.append_eq_left_iff.mp same)
      | keyword reserved =>
        obtain ⟨notAnd, notOr, noField⟩ := clashFree.beyondKeywords reserved tail nonempty goesOn
        cases next with
        | field named => exact noField _ (listed named (List.mem_cons_of_mem _ List.mem_cons_self)) clash
        | keyword joining =>
          cases joining <;> cases following
          · exact notAnd clash
          · exact notOr clash

theorem not_shadowed (clashFree : ClashFree (lexicon.map Field.spelling)) {words : List Word}
    (listed : ∀ field, .field field ∈ words → field.spelling ∈ lexicon.map Field.spelling)
    (chain : words.IsChain MayFollow) : ¬ Shadowed lexicon words := by
  induction words with
  | nil => exact id
  | cons word rest inductionHypothesis =>
    obtain ⟨follows, restChain⟩ := List.isChain_cons.mp chain
    intro shadowed
    cases shadowed with
    | inl here => exact clashFree.not_shadowedBefore listed follows here
    | inr later =>
      have restListed : ∀ field, .field field ∈ rest → field.spelling ∈ lexicon.map Field.spelling :=
        fun field present => listed field (List.mem_cons_of_mem _ present)
      exact inductionHypothesis restListed restChain later

theorem named {body : ClassBody} (clashFree : ClashFree (body.lexicon.map Field.spelling)) :
    ∀ field ∈ body.mentionable, field.name ≠ "" := by
  intro field mentioned nameless
  obtain ⟨kept, listed, same⟩ := exists_mem_lexicon mentioned
  have empty : kept.spelling = "" := by
    rw [same, Field.spelling, Text.capitalized_eq_empty_iff.mpr nameless]
  -- a field without letters would begin every keyword
  apply clashFree.outsideKeywords _ (List.mem_map_of_mem listed) Keyword.and
  rw [empty]
  exact List.nil_prefix

end ClashFree

/-! ## Names -/

theorem exists_read_iff_readAs {body : ClassBody} (named : ∀ field ∈ body.mentionable, field.name ≠ "")
    {plural name : String} {words : List Word} (name_eq : name = lead plural ++ rowText words)
    (once : ¬ (lead plural).toList <:+: (rowText words).toList) :
    (∃ found, read body name plural = some (.ok found) ∧ SameWords words found) ↔ ReadAs body.lexicon words := by
  refine exists_congr fun found => and_congr_left fun _ => ?_
  rw [read_eq_ok_iff named (.inl name_eq)]
  exact and_iff_right once

theorem SpelledFrom.listed {body : ClassBody} {exclusions : List String} {start name : String} {count : Nat}
    {phrase : Phrase} (spelled : SpelledFrom body exclusions start name count phrase) :
    ∀ clause ∈ phrase.members, ∃ kept ∈ body.lexicon, kept.spelling = clause.field.spelling :=
  fun clause present => exists_mem_lexicon (spelled.offered clause present).mentionable

theorem SpelledFrom.not_shadowed {body : ClassBody} {exclusions : List String} {start name : String} {count : Nat}
    {phrase : Phrase} (spelled : SpelledFrom body exclusions start name count phrase)
    (clashFree : ClashFree (body.lexicon.map Field.spelling)) : ¬ Shadowed body.lexicon phrase.words := by
  have fieldsListed : ∀ field, .field field ∈ phrase.words → field.spelling ∈ body.lexicon.map Field.spelling := by
    intro field present
    obtain ⟨clause, member, rfl⟩ := Phrase.exists_member_of_field_mem present
    obtain ⟨kept, listed, same⟩ := spelled.listed clause member
    exact same ▸ List.mem_map_of_mem listed
  apply clashFree.not_shadowed fieldsListed
  rw [Phrase.words_of_complete spelled.complete]
  exact isChain_words phrase.first phrase.further

/-- Over clash-free fields a built name is read as the phrase it was spelled from, unless its lead
occurs in it again. -/
theorem read_names_of_clashFree {body : ClassBody} (clashFree : ClashFree (body.lexicon.map Field.spelling))
    {plural name : String} {depth : Nat} {exclusions : List String}
    (built : name ∈ names body plural depth exclusions) :
    ∃ phrase, ∃ count ≤ depth, SpelledFrom body exclusions (lead plural) name count phrase ∧
      (¬ (lead plural).toList <:+: (rowText phrase.words).toList →
        ∃ found, read body name plural = some (.ok found) ∧ SameWords phrase.words found) := by
  obtain ⟨count, bound, derived⟩ := mem_names_iff.mp built
  obtain ⟨phrase, spelled⟩ := derived.exists_phrase
  refine ⟨phrase, count, bound, spelled, fun once => ?_⟩
  have readable := (readAs_iff_not_shadowed spelled.complete spelled.listed).mpr (spelled.not_shadowed clashFree)
  exact (exists_read_iff_readAs clashFree.named spelled.name_eq once).mpr readable

theorem read_names_of_clashFree_overlapping :
    ClashFree (overlappingBean.lexicon.map Field.spelling) ∧
      "findPeopleByNameOrNotesLike" ∈ names overlappingBean "People" 2 ["nameSuffix"] ∧
      ∃ phrase, ∃ count ≤ 2,
        SpelledFrom overlappingBean ["nameSuffix"] (lead "People") "findPeopleByNameOrNotesLike" count phrase ∧
        (¬ (lead "People").toList <:+: (rowText phrase.words).toList →
          ∃ found, read overlappingBean "findPeopleByNameOrNotesLike" "People" = some (.ok found) ∧
            SameWords phrase.words found) := by
  have clashFree : ClashFree (overlappingBean.lexicon.map Field.spelling) := by decide +kernel
  have shorter : Built (lead "People") (candidates overlappingBean ["nameSuffix"]) 1 "findPeopleByName" :=
    mem_firstLayer_iff.mp (by decide +kernel)
  have built : "findPeopleByNameOrNotesLike" ∈ names overlappingBean "People" 2 ["nameSuffix"] :=
    mem_names_iff.mpr ⟨2, Nat.le_refl 2, shorter.extend (by decide +kernel)⟩
  exact ⟨clashFree, built, read_names_of_clashFree clashFree built⟩

end QueryByName.Finder
