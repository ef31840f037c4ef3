import QueryByName.Proofs.Finder.Turns
import QueryByName.Proofs.Java.SettableFields

/-! # The fields that a reading mentions

A reading mentions only fields of its lexicon (`field_mem_of_words`), and those are fields of the
class (`mem_fields_of_mem_lexicon`).  Fields that it does not mention play no part in it: without
them the lexicon gives the same words (`words_filter_iff`).
-/

namespace QueryByName.Finder

open QueryByName.Java (Field ClassBody)

theorem mem_fields_of_mem_lexicon {body : ClassBody} {field : Field} (listed : field ∈ body.lexicon) :
    field ∈ body.fields :=
  body.mem_fields_of_mem_settable (List.mem_filter.mp (mem_mentionable_of_mem_lexicon listed)).1

/-! ## Words of a smaller lexicon -/

theorem firstWord?_eq_none_of_sublist {text : List Char} {fewer words : List Word} (sublist : fewer.Sublist words)
    (nothing : firstWord? text words = none) : firstWord? text fewer = none :=
  firstWord?_eq_none_iff.mpr fun word listed => firstWord?_eq_none_iff.mp nothing word (sublist.subset listed)

theorem firstWord?_filter {text rest : List Char} {word : Word} {words : List Word}
    (found : firstWord? text words = some (word, rest)) {kept : Word → Bool} (keeps : kept word = true) :
    firstWord? text (words.filter kept) = some (word, rest) := by
  induction words with
  | nil => cases found
  | cons candidate words inductionHypothesis =>
    -- a word that is passed over is passed over again or left out
    rw [List.filter_cons]
    rw [firstWord?] at found
    cases dropped : Text.dropLead? candidate.spelling.toList text with
    | some following =>
      rw [dropped] at found
      obtain ⟨rfl, rfl⟩ := Prod.mk.inj (Option.some.inj found)
      rw [if_pos keeps, firstWord?, dropped]
    | none =>
      rw [dropped] at found
      split
      · rw [firstWord?, dropped]
        exact inductionHypothesis found
      · exact inductionHypothesis found

def keepsWord (kept : Field → Bool) : Word → Bool
  | .field field => kept field
  | .keyword _ => true

theorem map_field_filter (kept : Field → Bool) (lexicon : List Field) :
    (lexicon.filter kept).map Word.field = (lexicon.map Word.field).filter (keepsWord kept) := by
  rw [List.filter_map]
  rfl

theorem nextWord?_filter {lexicon : List Field} {text rest : List Char} {word : Word} {kept : Field → Bool}
    (found : nextWord? lexicon text = some (word, rest)) (keeps : keepsWord kept word = true) :
    nextWord? (lexicon.filter kept) text = some (word, rest) := by
  rw [nextWord?] at found ⊢
  rw [map_field_filter]
  cases fieldFound : firstWord? text (lexicon.map .field) with
  | some taken =>
    rw [fieldFound, Option.some_or] at found
    obtain rfl := Option.some.inj found
    rw [firstWord?_filter fieldFound keeps, Option.some_or]
  | none =>
    rw [fieldFound, Option.none_or] at found
    rw [firstWord?_eq_none_of_sublist List.filter_sublist fieldFound, Option.none_or, found]

theorem field_mem_of_nextWord? {lexicon : List Field} {text rest : List Char} {field : Field}
    (found : nextWord? lexicon text = some (.field field, rest)) : field ∈ lexicon := by
  rw [nextWord?, Option.or_eq_some_iff] at found
  cases found with
  | inl fieldFound =>
    obtain ⟨named, listed, same⟩ := List.mem_map.mp (firstWord?_eq_some fieldFound).1
    rwa [← Word.field.inj same]
  | inr keywordFound =>
    obtain ⟨_, _, other⟩ := List.mem_map.mp (firstWord?_eq_some keywordFound.2).1
    cases other

theorem Turns.field_mem {lexicon : List Field} {text rest : List Char} {found : List Word}
    (turns : Turns lexicon text found rest) : ∀ field, .field field ∈ found → field ∈ lexicon := by
  induction turns with
  | none =>
    intro field present
    cases present
  | turn _ taken _ inductionHypothesis =>
    intro field present
    cases List.mem_cons.mp present with
    | inl here =>
      subst here
      exact field_mem_of_nextWord? taken
    | inr later => exact inductionHypothesis field later

theorem Turns.filter {lexicon : List Field} {text rest : List Char} {found : List Word} {kept : Field → Bool}
    (turns : Turns lexicon text found rest) (keeps : ∀ word ∈ found, keepsWord kept word = true) :
    Turns (lexicon.filter kept) text found rest := by
  induction turns with
  | none text => exact .none text
  | turn nonempty taken _ inductionHypothesis =>
    obtain ⟨wordKept, furtherKept⟩ := List.forall_mem_cons.mp keeps
    exact .turn nonempty (nextWord?_filter taken wordKept) (inductionHypothesis furtherKept)

theorem field_mem_of_words {lexicon : List Field} {text : List Char} {found : List Word}
    (reading : words lexicon text = some (.ok found)) : ∀ field, .field field ∈ found → field ∈ lexicon :=
  (words_eq_ok_iff.mp reading).field_mem

/-- Leaving fields out of a lexicon changes nothing about a reading exactly if it mentions none of them. -/
theorem words_filter_iff {lexicon : List Field} {text : List Char} {found : List Word} {kept : Field → Bool}
    (reading : words lexicon text = some (.ok found)) :
    words (lexicon.filter kept) text = some (.ok found) ↔ ∀ field, .field field ∈ found → kept field = true := by
  constructor
  · intro readAgain field present
    exact (List.mem_filter.mp (field_mem_of_words readAgain field present)).2
  · intro mentionsKept
    refine words_eq_ok_iff.mpr ((words_eq_ok_iff.mp reading).filter fun word present => ?_)
    cases word with
    | field field => exact mentionsKept field present
    | keyword _ => rfl

/-! ## Names -/

theorem words_of_read {body : ClassBody} {finder plural : String} {found : List Word}
    (accepted : read body finder plural = some (.ok found)) :
    words body.lexicon (withoutLead plural finder).toList = some (.ok found) := by
  rw [read] at accepted
  split at accepted
  · cases accepted
  · obtain ⟨outcome, reading, same⟩ := Option.map_eq_some_iff.mp accepted
    cases outcome with
    | ok words => rw [reading, Except.ok.inj same]
    | error fragment => cases same

/-! ## Another lexicon -/

section Covered

variable {lexicon other : List Field}

theorem not_begins_of_covered (covered : ∀ field ∈ other, ∃ known ∈ lexicon, known.spelling = field.spelling)
    {text : List Char} (noField : ∀ named ∈ lexicon, ¬ (Word.field named).Begins text) :
    ∀ named ∈ other, ¬ (Word.field named).Begins text := by
  intro named listed begins
  obtain ⟨known, knownListed, same⟩ := covered named listed
  apply noField known knownListed
  rwa [Word.Begins, Word.spelling, same]

/-- A choice stays the same where no longer spelling can take its place. -/
theorem GreedyChoice.of_covered (covered : ∀ field ∈ other, ∃ known ∈ lexicon, known.spelling = field.spelling)
    {text : List Char} {word : Word} (choice : GreedyChoice lexicon text word)
    (kept : ∀ field, word = .field field → field ∈ other) : GreedyChoice other text word := by
  cases choice with
  | field listed begins longest =>
    refine .field (kept _ rfl) begins fun candidate candidateListed candidateBegins => ?_
    obtain ⟨known, knownListed, same⟩ := covered candidate candidateListed
    have knownBegins : (Word.field known).Begins text := by rwa [Word.Begins, Word.spelling, same]
    have shorter := longest known knownListed knownBegins
    rwa [same] at shorter
  | keyword noField begins longest =>
    exact .keyword (not_begins_of_covered covered noField) begins longest

theorem GreedySplit.of_covered (covered : ∀ field ∈ other, ∃ known ∈ lexicon, known.spelling = field.spelling)
    {text fragment : List Char} {found : List Word} (split : GreedySplit lexicon text found fragment)
    (kept : ∀ field, .field field ∈ found → field ∈ other) : GreedySplit other text found fragment := by
  induction split with
  | ended finished =>
    refine .ended (finished.imp_right fun stuck => ?_)
    exact ⟨not_begins_of_covered covered stuck.noField, stuck.noKeyword⟩
  | word choice split _ inductionHypothesis =>
    refine .word (choice.of_covered covered fun field here => ?_) split ?_
    · exact kept field (here ▸ List.mem_cons_self)
    · exact inductionHypothesis fun field later => kept field (List.mem_cons_of_mem _ later)

end Covered

theorem read_of_covered {body other : ClassBody} (named : ∀ field ∈ body.mentionable, field.name ≠ "")
    (otherNamed : ∀ field ∈ other.mentionable, field.name ≠ "")
    (covered : ∀ field ∈ other.mentionable, ∃ known ∈ body.mentionable, known.spelling = field.spelling)
    {finder plural : String} {found : List Word} (reading : read body finder plural = some (.ok found))
    (kept : ∀ field, .field field ∈ found → field ∈ other.lexicon) : read other finder plural = some (.ok found) := by
  have isBody : IsBody plural finder (withoutLead plural finder) := isBody_iff.mpr rfl
  obtain ⟨once, split⟩ := (read_eq_ok_iff named isBody).mp reading
  refine (read_eq_ok_iff otherNamed isBody).mpr ⟨once, split.of_covered ?_ kept⟩
  intro field listed
  obtain ⟨known, mentioned, same⟩ := covered field (mem_mentionable_of_mem_lexicon listed)
  obtain ⟨standing, inLexicon, sameAgain⟩ := exists_mem_lexicon mentioned
  exact ⟨standing, inLexicon, sameAgain.trans same⟩

end QueryByName.Finder
