import QueryByName.Proofs.Finder.Turns
import QueryByName.Proofs.Java.BeanFields

/-! # The scan of a name comes to an end

Over fields with letters every turn of the scan shortens the text (`length_lt_of_nextWord?`), so there
are no more turns than letters (`Turns.length_le`) and the scan is never idle.  The fields of a bean have
names, and the words of its lexicon have letters: whatever the name and the fields, the scan halts, and
the outcome of reading is what the turns have found by then (`scan_bean`).
-/

namespace QueryByName.Finder

open QueryByName.Java (ClassBody Field TypeExpr)

variable {lexicon : List Field}

/-- A scan makes no more turns than the text has letters, and fewer by the letters it has not reached. -/
theorem Turns.length_le (spelled : ∀ field ∈ lexicon, field.spelling ≠ "") {text rest : List Char}
    {words : List Word} (turns : Turns lexicon text words rest) : words.length + rest.length ≤ text.length := by
  induction turns with
  | none text => simp
  | turn _ taken _ inductionHypothesis =>
    have shorter := length_lt_of_nextWord? spelled taken
    rw [List.length_cons]
    omega

/-- Turns lead from every text to where the scan halts, and reading reports what they have found. -/
theorem exists_turns (spelled : ∀ field ∈ lexicon, field.spelling ≠ "") (text : List Char) :
    ∃ found rest, Turns lexicon text found rest ∧ Halted lexicon rest ∧
      words lexicon text = some (reported found rest) := by
  cases returned : words lexicon text with
  | none =>
    obtain ⟨_, rest, _, _, word, taken⟩ := exists_idle_of_words text returned
    exact absurd (length_lt_of_nextWord? spelled taken) (Nat.lt_irrefl _)
  | some outcome =>
    obtain ⟨found, rest, turns, halted, rfl⟩ := exists_turns_of_words returned
    exact ⟨found, rest, turns, halted, rfl⟩

/-! ## Beans -/

theorem lexicon_bean_spelled (owner : TypeExpr) (fields : List Field) :
    ∀ field ∈ (ClassBody.bean owner fields).lexicon, field.spelling ≠ "" := by
  refine lexicon_spelled fun field mentionable => ?_
  exact ClassBody.name_ne_empty_of_mem_settable_bean (List.mem_of_mem_filter mentionable)

/-- The scan of any name over any bean comes to an end within as many turns as there are letters after
the lead, and what the turns have found is the outcome. -/
theorem scan_bean (owner : TypeExpr) (fields : List Field) (finder plural : String) :
    (∀ field ∈ (ClassBody.bean owner fields).lexicon, field.spelling ≠ "") ∧
    (∀ keyword : Keyword, keyword.spelling ≠ "") ∧
    (∀ text word rest, nextWord? (ClassBody.bean owner fields).lexicon text = some (word, rest) →
      rest.length < text.length) ∧
    (∀ found rest, Turns (ClassBody.bean owner fields).lexicon (withoutLead plural finder).toList found rest →
      found.length ≤ (withoutLead plural finder).length) ∧
    ∃ found rest,
      Turns (ClassBody.bean owner fields).lexicon (withoutLead plural finder).toList found rest ∧
      Halted (ClassBody.bean owner fields).lexicon rest ∧
      read (ClassBody.bean owner fields) finder plural = some
        (if Text.contains (lead plural) (withoutLead plural finder) then .error (.repeatedLead finder (lead plural))
        else if rest = [] then .ok found
        else .error (.unmatched finder (String.ofList rest) owner.simpleName)) := by
  have spelled := lexicon_bean_spelled owner fields
  refine ⟨spelled, Keyword.spelling_ne_empty, fun _ _ _ => length_lt_of_nextWord? spelled, ?_, ?_⟩
  · intro found rest turns
    have bound := turns.length_le spelled
    rw [String.length_toList] at bound
    omega
  · obtain ⟨found, rest, turns, halted, outcome⟩ := exists_turns spelled (withoutLead plural finder).toList
    refine ⟨found, rest, turns, halted, ?_⟩
    rw [read, outcome]
    split
    · rfl
    · by_cases whole : rest = []
      · simp [reported, whole, answer]
      · simp only [reported, whole, if_false]
        rfl

end QueryByName.Finder
