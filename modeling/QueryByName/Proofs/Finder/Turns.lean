import QueryByName.Proofs.Finder.GreedyReading

/-! # The turns of a scan

A scan takes one word after the other off a text.  `Turns` follows it for as many turns as one likes,
whether it ends or not, and reading a text amounts to reading what the turns leave of it
(`words_of_turns`).  So it has a result exactly if the scan halts, where the text is used up or no word
begins it, and the result is what the turns have taken by then (`words_eq_some_iff`).

Not every scan halts.  A word without letters leaves the text as it is, and the next turn takes it
again, so there is no result exactly if the scan makes any number of turns (`words_eq_none_iff`).  Then it
comes to a rest at which it is `Idle`: a field without letters is listed, and no other field begins the
rest (`idle_iff`).
-/

namespace QueryByName.Finder

open QueryByName.Java (ClassBody Field)
open QueryByName.Ordered (Increasing)

variable {lexicon : List Field} {text rest : List Char} {found : List Word}

/-- From a text the scan takes the given words in as many turns, and a rest remains.  There is no turn
once the text is used up. -/
inductive Turns (lexicon : List Field) : List Char → List Word → List Char → Prop where
  | none (text : List Char) : Turns lexicon text [] text
  | turn {text rest last : List Char} {word : Word} {words : List Word} (nonempty : text ≠ [])
      (taken : nextWord? lexicon text = some (word, rest)) (further : Turns lexicon rest words last) :
      Turns lexicon text (word :: words) last

/-- The scan goes on from no such rest. -/
def Halted (lexicon : List Field) (rest : List Char) : Prop :=
  rest = [] ∨ nextWord? lexicon rest = none

/-- What is reported of a scan that has taken words and goes no further. -/
def reported (found : List Word) (rest : List Char) : Except (List Char) (List Word) :=
  if rest = [] then .ok found else .error rest

/-! ## Scans that halt -/

theorem words_of_halted (halted : Halted lexicon rest) : words lexicon rest = some (reported [] rest) := by
  by_cases finished : rest = []
  · rw [finished, words_nil]
    rfl
  · rw [words_of_stopped finished (halted.resolve_left finished), reported, if_neg finished]

theorem map_reported (earlier found : List Word) (rest : List Char) :
    (reported found rest).map (earlier ++ ·) = reported (earlier ++ found) rest := by
  by_cases finished : rest = []
  · simp [reported, finished, Except.map]
  · simp [reported, finished, Except.map]

theorem words_of_turns (turns : Turns lexicon text found rest) :
    words lexicon text = (words lexicon rest).map fun further => further.map (found ++ ·) := by
  induction turns with
  | none text =>
    cases words lexicon text with
    | none => rfl
    | some outcome => cases outcome <;> rfl
  | turn nonempty taken _ inductionHypothesis =>
    rw [words_of_taken nonempty taken, inductionHypothesis, Option.map_map]
    congr 1
    funext further
    cases further <;> rfl

theorem words_of_turns_halted (turns : Turns lexicon text found rest) (halted : Halted lexicon rest) :
    words lexicon text = some (reported found rest) := by
  rw [words_of_turns turns, words_of_halted halted, Option.map_some, map_reported, List.append_nil]

theorem exists_turns_of_words {outcome : Except (List Char) (List Word)}
    (returned : words lexicon text = some outcome) :
    ∃ found rest, Turns lexicon text found rest ∧ Halted lexicon rest ∧ outcome = reported found rest := by
  -- the least fixed point has a result only where finitely many unfoldings lead to one
  refine Scan.words.partial_correctness (fun scan outcome => ∃ found rest,
    Turns scan.lexicon scan.rest found rest ∧ Halted scan.lexicon rest ∧ outcome = reported found rest) ?_
    ⟨lexicon, text⟩ outcome returned
  intro words inductionHypothesis scan outcome returned
  split at returned
  · rename_i finished
    obtain rfl := Option.some.inj returned
    exact ⟨[], scan.rest, .none scan.rest, .inl finished, by rw [reported, if_pos finished]⟩
  · rename_i nonempty
    split at returned
    · rename_i stopped
      obtain rfl := Option.some.inj returned
      exact ⟨[], scan.rest, .none scan.rest, .inr stopped, by rw [reported, if_neg nonempty]⟩
    · rename_i word rest taken
      obtain ⟨further, scanned, same⟩ := Option.bind_eq_some_iff.mp returned
      obtain ⟨found, last, turns, halted, rfl⟩ := inductionHypothesis _ further scanned
      refine ⟨word :: found, last, .turn nonempty taken turns, halted, ?_⟩
      rw [← Option.some.inj same]
      exact map_reported [word] found last

theorem words_eq_some_iff {outcome : Except (List Char) (List Word)} : words lexicon text = some outcome ↔
    ∃ found rest, Turns lexicon text found rest ∧ Halted lexicon rest ∧ outcome = reported found rest := by
  constructor
  · exact exists_turns_of_words
  · rintro ⟨found, rest, turns, halted, rfl⟩
    exact words_of_turns_halted turns halted

theorem words_eq_ok_iff : words lexicon text = some (.ok found) ↔ Turns lexicon text found [] := by
  rw [words_eq_some_iff]
  constructor
  · rintro ⟨taken, rest, turns, _, same⟩
    by_cases finished : rest = []
    · rw [reported, if_pos finished] at same
      rwa [Except.ok.inj same, ← finished]
    · rw [reported, if_neg finished] at same
      cases same
  · intro turns
    exact ⟨found, [], turns, .inl rfl, rfl⟩

/-! ## Scans without end -/

theorem Turns.append (turns : Turns lexicon text found rest) {others : List Word} {last : List Char}
    (further : Turns lexicon rest others last) : Turns lexicon text (found ++ others) last := by
  induction turns with
  | none => exact further
  | turn nonempty taken _ inductionHypothesis => exact .turn nonempty taken (inductionHypothesis further)

/-- No turns lead beyond where the scan halts. -/
theorem Turns.length_le_of_halted (turns : Turns lexicon text found rest) (halted : Halted lexicon rest)
    {others : List Word} {last : List Char} (longer : Turns lexicon text others last) :
    others.length ≤ found.length := by
  induction turns generalizing others with
  | none text =>
    cases longer with
    | none => exact Nat.le_refl 0
    | turn nonempty taken _ =>
      rw [halted.resolve_left nonempty] at taken
      cases taken
  | turn nonempty taken _ inductionHypothesis =>
    cases longer with
    | none => exact Nat.zero_le _
    | turn _ takenAgain further =>
      obtain ⟨rfl, rfl⟩ := Prod.mk.inj (Option.some.inj (taken.symm.trans takenAgain))
      exact Nat.succ_le_succ (inductionHypothesis halted further)

/-- The scan goes on from a rest, but leaves it as it is. -/
def Idle (lexicon : List Field) (rest : List Char) : Prop :=
  rest ≠ [] ∧ ∃ word, nextWord? lexicon rest = some (word, rest)

/-- From a rest at which it is idle the scan makes any number of turns. -/
theorem Idle.exists_turns (idle : Idle lexicon rest) (count : Nat) :
    ∃ found, found.length = count ∧ Turns lexicon rest found rest := by
  obtain ⟨nonempty, word, taken⟩ := idle
  induction count with
  | zero => exact ⟨[], rfl, .none rest⟩
  | succ count inductionHypothesis =>
    obtain ⟨found, rfl, turns⟩ := inductionHypothesis
    exact ⟨word :: found, rfl, .turn nonempty taken turns⟩

/-- From a text the scan makes any number of turns. -/
def GoesOn (lexicon : List Field) (text : List Char) : Prop :=
  ∀ count, ∃ found rest, count ≤ found.length ∧ Turns lexicon text found rest

theorem Turns.goesOn (turns : Turns lexicon text found rest) (idle : Idle lexicon rest) : GoesOn lexicon text := by
  intro count
  obtain ⟨others, rfl, further⟩ := idle.exists_turns count
  refine ⟨found ++ others, rest, ?_, turns.append further⟩
  rw [List.length_append]
  exact Nat.le_add_left _ _

/-- A word that leaves as many letters as there were has none. -/
theorem eq_of_nextWord? {word : Word} (taken : nextWord? lexicon text = some (word, rest))
    (long : text.length ≤ rest.length) : rest = text := by
  obtain ⟨_, rfl⟩ := nextWord?_eq_some taken
  have none : word.spelling.toList = [] := by
    rw [List.length_append] at long
    exact List.eq_nil_of_length_eq_zero (by omega)
  rw [none, List.nil_append]

theorem exists_idle_of_words (text : List Char) (endless : words lexicon text = none) :
    ∃ found rest, Turns lexicon text found rest ∧ Idle lexicon rest := by
  by_cases finished : text = []
  · rw [finished, words_nil] at endless
    cases endless
  · cases taken : nextWord? lexicon text with
    | none =>
      rw [words_of_stopped finished taken] at endless
      cases endless
    | some next =>
      obtain ⟨word, rest⟩ := next
      by_cases same : rest = text
      · exact ⟨[], text, .none text, finished, word, by rw [taken, same]⟩
      · have shorter : rest.length < text.length :=
          Nat.lt_of_not_le fun long => same (eq_of_nextWord? taken long)
        rw [words_of_taken finished taken, Option.map_eq_none_iff] at endless
        obtain ⟨found, last, turns, idle⟩ := exists_idle_of_words rest endless
        exact ⟨word :: found, last, .turn finished taken turns, idle⟩
termination_by text.length

theorem words_eq_none_iff : words lexicon text = none ↔ GoesOn lexicon text := by
  constructor
  · intro endless
    obtain ⟨found, rest, turns, idle⟩ := exists_idle_of_words text endless
    exact turns.goesOn idle
  · intro goesOn
    cases returned : words lexicon text with
    | none => rfl
    | some outcome =>
      obtain ⟨found, rest, turns, halted, _⟩ := exists_turns_of_words returned
      obtain ⟨others, last, more, longer⟩ := goesOn (found.length + 1)
      exact absurd (turns.length_le_of_halted halted longer) (Nat.not_le.mpr more)

theorem begins_of_spelling_eq_empty {word : Word} (unlettered : word.spelling = "") : word.Begins text := by
  rw [Word.Begins, unlettered]
  exact List.nil_prefix

/-- The scan is idle where a field without letters is listed and no other field begins the rest. -/
theorem idle_iff (increasing : Increasing fieldOrder lexicon) : Idle lexicon rest ↔
    rest ≠ [] ∧ (∃ field ∈ lexicon, field.spelling = "") ∧
      ∀ field ∈ lexicon, (Word.field field).Begins rest → field.spelling = "" := by
  refine and_congr_right fun nonempty => ?_
  constructor
  · rintro ⟨word, taken⟩
    have unlettered : word.spelling = "" :=
      String.toList_eq_nil_iff.mp (List.self_eq_append_left.mp (nextWord?_eq_some taken).2)
    cases greedyChoice_of_nextWord? increasing taken with
    | @field named listed _ longest =>
      have none : named.spelling = "" := unlettered
      refine ⟨⟨named, listed, none⟩, fun other otherListed begins => ?_⟩
      have short := longest other otherListed begins
      rw [none] at short
      exact String.length_eq_zero_iff.mp (Nat.le_zero.mp short)
    | keyword => exact absurd unlettered (Keyword.spelling_ne_empty _)
  · rintro ⟨⟨named, listed, unlettered⟩, noOther⟩
    have begins : (Word.field named).Begins rest := begins_of_spelling_eq_empty unlettered
    cases taken : nextWord? lexicon rest with
    | none => exact absurd begins ((nextWord?_eq_none_iff.mp taken).noField named listed)
    | some next =>
      obtain ⟨word, last⟩ := next
      have split := (nextWord?_eq_some taken).2
      cases greedyChoice_of_nextWord? increasing taken with
      | @field other otherListed otherBegins _ =>
        rw [Word.spelling, noOther other otherListed otherBegins] at split
        exact ⟨_, congrArg (fun last => some (_, last)) split.symm⟩
      | keyword noField _ _ => exact absurd begins (noField named listed)

/-! ## Limited scans -/

/-- The words of a text, or the rest at which no word begins, if the scan halts before its turns run out. -/
def wordsWithin (lexicon : List Field) : Nat → List Char → Option (Except (List Char) (List Word))
  | 0, _ => none
  | turns + 1, text =>
    if text = [] then some (.ok [])
    else
      match nextWord? lexicon text with
      | none => some (.error text)
      | some (word, rest) => (wordsWithin lexicon turns rest).map fun further => further.map (word :: ·)

theorem words_of_wordsWithin {turns : Nat} {text : List Char} {outcome : Except (List Char) (List Word)}
    (returned : wordsWithin lexicon turns text = some outcome) : words lexicon text = some outcome := by
  induction turns generalizing text outcome with
  | zero => cases returned
  | succ turns inductionHypothesis =>
    rw [wordsWithin] at returned
    split at returned
    · rename_i finished
      rw [finished, words_nil, returned]
    · rename_i nonempty
      split at returned
      · rename_i stopped
        rw [words_of_stopped nonempty stopped, returned]
      · rename_i word rest taken
        obtain ⟨further, scanned, rfl⟩ := Option.map_eq_some_iff.mp returned
        rw [words_of_taken nonempty taken, inductionHypothesis scanned, Option.map_some]

/-! ## Names -/

section Names

variable {body : ClassBody} {finder plural : String}

/-- The lead of a name is not repeated, and the scan of what stands after it never ends. -/
def Endless (body : ClassBody) (finder plural : String) : Prop :=
  ¬ (lead plural).toList <:+: (withoutLead plural finder).toList ∧
    GoesOn body.lexicon (withoutLead plural finder).toList

theorem read_eq_none_iff : read body finder plural = none ↔ Endless body finder plural := by
  rw [read, Endless, ← Text.contains_iff, ← words_eq_none_iff]
  split
  · rename_i repeated
    simp [repeated]
  · rename_i once
    rw [Option.map_eq_none_iff]
    exact (and_iff_right once).symm

theorem Endless.exists_unnamed (endless : Endless body finder plural) :
    ∃ field ∈ body.mentionable, field.name = "" := by
  obtain ⟨_, _, _, idle⟩ := exists_idle_of_words _ (words_eq_none_iff.mpr endless.2)
  obtain ⟨_, ⟨field, listed, unlettered⟩, _⟩ := (idle_iff (increasing_lexicon body)).mp idle
  exact ⟨field, mem_mentionable_of_mem_lexicon listed, Text.capitalized_eq_empty_iff.mp unlettered⟩

theorem read_of_wordsWithin (turns : Nat) (once : Text.contains (lead plural) (withoutLead plural finder) = false)
    {outcome : Except (List Char) (List Word)}
    (returned : wordsWithin body.lexicon turns (withoutLead plural finder).toList = some outcome) :
    read body finder plural = some (answer body finder outcome) := by
  rw [read, if_neg (by simp [once]), words_of_wordsWithin returned, Option.map_some]

theorem read_eq_ok_of_wordsWithin (turns : Nat)
    (once : Text.contains (lead plural) (withoutLead plural finder) = false)
    (returned : wordsWithin body.lexicon turns (withoutLead plural finder).toList = some (.ok found)) :
    read body finder plural = some (.ok found) :=
  read_of_wordsWithin turns once returned

/-- Where every field that names may mention has a name, every scan comes to an end. -/
theorem exists_read (named : ∀ field ∈ body.mentionable, field.name ≠ "") (finder plural : String) :
    ∃ reading, read body finder plural = some reading := by
  cases returned : read body finder plural with
  | some reading => exact ⟨reading, rfl⟩
  | none =>
    obtain ⟨field, mentionable, unnamed⟩ := (read_eq_none_iff.mp returned).exists_unnamed
    exact absurd unnamed (named field mentionable)

end Names

end QueryByName.Finder
