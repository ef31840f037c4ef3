import QueryByName.Finder.Word

/-! # Phrases

The rows of words that follow the grammar of finders: a clause is a field with at most one
keyword about it, and clauses are joined by connectives.  Reading imposes no grammar, so a row of
words need not be a phrase; the generated names are spelled from phrases without a trailing
connective.

`Phrase.words_eq` reads a phrase as a list of clauses, each with the connective directly after it.
That is the form in which queries depend on phrases.
-/

namespace QueryByName.Finder

open QueryByName.Java (Field)

abbrev Connective := { keyword : Keyword // keyword.isConnective = true }

abbrev Operator := { keyword : Keyword // keyword.isConnective = false }

structure Clause where
  field : Field
  operator : Option Operator

def Clause.keyword? (clause : Clause) : Option Keyword :=
  clause.operator.map Subtype.val

def Clause.words (clause : Clause) : List Word :=
  .field clause.field :: clause.keyword?.toList.map .keyword

theorem Clause.eq_of_field_mem {clause : Clause} {field : Field} (present : .field field ∈ clause.words) :
    clause.field = field := by
  cases List.mem_cons.mp present with
  | inl same => exact (Word.field.inj same).symm
  | inr later =>
    obtain ⟨_, _, other⟩ := List.mem_map.mp later
    cases other

/-- Clauses joined by connectives, with at most one connective left over at the end. -/
structure Phrase where
  first : Clause
  further : List (Connective × Clause)
  trailing : Option Connective

def joinedWords (joined : Connective × Clause) : List Word :=
  .keyword joined.1.val :: joined.2.words

/-- What may stand directly after a clause, as words. -/
def connectiveWords (connective : Option Connective) : List Word :=
  connective.toList.map fun joining => .keyword joining.val

namespace Phrase

def words (phrase : Phrase) : List Word :=
  phrase.first.words ++ phrase.further.flatMap joinedWords ++ connectiveWords phrase.trailing

/-- The clauses of a phrase, each with the connective that directly follows it. -/
def clausesFrom (trailing : Option Connective) :
    Clause → List (Connective × Clause) → List (Clause × Option Connective)
  | clause, [] => [(clause, trailing)]
  | clause, (connective, next) :: rest => (clause, some connective) :: clausesFrom trailing next rest

def clauses (phrase : Phrase) : List (Clause × Option Connective) :=
  clausesFrom phrase.trailing phrase.first phrase.further

theorem clausesFrom_words (trailing : Option Connective) (first : Clause)
    (further : List (Connective × Clause)) :
    first.words ++ further.flatMap joinedWords ++ connectiveWords trailing =
      (clausesFrom trailing first further).flatMap fun entry => entry.1.words ++ connectiveWords entry.2 := by
  induction further generalizing first with
  | nil => simp [clausesFrom]
  | cons joined rest inductionHypothesis =>
    obtain ⟨connective, next⟩ := joined
    rw [clausesFrom, List.flatMap_cons, List.flatMap_cons, ← inductionHypothesis next]
    simp [joinedWords, connectiveWords]

def members (phrase : Phrase) : List Clause :=
  phrase.first :: phrase.further.map Prod.snd

theorem exists_member_of_field_mem {phrase : Phrase} {field : Field} (present : .field field ∈ phrase.words) :
    ∃ clause ∈ phrase.members, clause.field = field := by
  cases List.mem_append.mp present with
  | inl written =>
    cases List.mem_append.mp written with
    | inl inFirst => exact ⟨phrase.first, List.mem_cons_self, Clause.eq_of_field_mem inFirst⟩
    | inr inFurther =>
      obtain ⟨joined, listed, spelled⟩ := List.mem_flatMap.mp inFurther
      refine ⟨joined.2, List.mem_cons_of_mem _ (List.mem_map_of_mem listed), ?_⟩
      cases List.mem_cons.mp spelled with
      | inl other => cases other
      | inr inClause => exact Clause.eq_of_field_mem inClause
  | inr trailing =>
    obtain ⟨_, _, other⟩ := List.mem_map.mp trailing
    cases other

/-- The phrase with one more clause, joined on behind the others. -/
def join (phrase : Phrase) (connective : Connective) (clause : Clause) : Phrase :=
  { phrase with further := phrase.further ++ [(connective, clause)] }

theorem members_join (phrase : Phrase) (connective : Connective) (clause : Clause) :
    (phrase.join connective clause).members = phrase.members ++ [clause] := by
  simp [members, join]

theorem words_join {phrase : Phrase} (complete : phrase.trailing = none) (connective : Connective)
    (clause : Clause) :
    (phrase.join connective clause).words = phrase.words ++ .keyword connective.val :: clause.words := by
  simp [words, join, complete, connectiveWords, joinedWords]

theorem words_eq (phrase : Phrase) :
    phrase.words = phrase.clauses.flatMap fun entry => entry.1.words ++ connectiveWords entry.2 :=
  clausesFrom_words phrase.trailing phrase.first phrase.further

theorem map_fst_clauses (phrase : Phrase) : phrase.clauses.map Prod.fst = phrase.members := by
  have listed (trailing : Option Connective) (first : Clause) (further : List (Connective × Clause)) :
      (clausesFrom trailing first further).map Prod.fst = first :: further.map Prod.snd := by
    induction further generalizing first with
    | nil => rfl
    | cons joined rest inductionHypothesis =>
      rw [clausesFrom, List.map_cons, List.map_cons, inductionHypothesis]
  exact listed phrase.trailing phrase.first phrase.further

theorem mem_members_of_mem_clauses {phrase : Phrase} {entry : Clause × Option Connective}
    (present : entry ∈ phrase.clauses) : entry.1 ∈ phrase.members := by
  rw [← map_fst_clauses]
  exact List.mem_map_of_mem present

theorem field_mem_of_mem_members {phrase : Phrase} {clause : Clause} (present : clause ∈ phrase.members) :
    .field clause.field ∈ phrase.words := by
  rw [← map_fst_clauses] at present
  obtain ⟨entry, listed, rfl⟩ := List.mem_map.mp present
  rw [phrase.words_eq]
  exact List.mem_flatMap.mpr ⟨entry, listed, List.mem_append_left _ List.mem_cons_self⟩

end Phrase

end QueryByName.Finder
