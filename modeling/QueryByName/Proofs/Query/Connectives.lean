import QueryByName.Proofs.Query.PhraseQuery

/-! # Clauses and connectives in a condition

What is left of a phrase in the condition it puts on the entity.  A clause about a column leaves its
predicate there.  A clause about a collection leaves nothing, and the connective after it goes with
it, so the connective between two clauses is in the condition only if the clause before it is about a
column and so is some clause behind it (`condition_of_joined`, `condition_of_unjoined`).

A connective at the end of the condition is taken off, and names may end like one.  So predicates are
cut at their last value: what stands before its name ends with a letter that no connective has
(`sealed_predicateOpening`).
-/

namespace QueryByName.Query

open QueryByName.Finder (Clause Connective Keyword Phrase Word connectiveWords)

variable {entityAlias : String}

/-! ## Predicates and their last value -/

/-- The predicate of a clause up to the name of its last value. -/
def predicateOpening (entityAlias : String) (clause : Clause) : String :=
  let column := entityAlias ++ "." ++ clause.field.name
  match clause.keyword? with
  | some .between => column ++ " BETWEEN :min" ++ clause.field.spelling ++ " AND :max"
  | some .like => "LOWER(" ++ column ++ ")" ++ " LIKE LOWER(:" ++ clause.field.name ++ ")"
  | some .ilike => "LOWER(" ++ column ++ ")" ++ " LIKE LOWER(:" ++ clause.field.name ++ ")"
  | some .isNull => column ++ " IS NULL"
  | some .isNotNull => column ++ " IS NOT NULL"
  | some .not => column ++ " IS NOT :"
  | some .notEquals => column ++ " != :"
  | some .lessThan => column ++ " < :"
  | some .lessThanEquals => column ++ " <= :"
  | some .greaterThan => column ++ " > :"
  | some .greaterThanEquals => column ++ " >= :"
  | _ => column ++ " = :"

/-- The name at the end of a predicate, if one stands there. -/
def predicateEnd (clause : Clause) : String :=
  match clause.keyword? with
  | some .between => clause.field.spelling
  | some .like => ""
  | some .ilike => ""
  | some .isNull => ""
  | some .isNotNull => ""
  | _ => clause.field.name

theorem predicateText_eq (entityAlias : String) (clause : Clause) :
    predicateText entityAlias clause = predicateOpening entityAlias clause ++ predicateEnd clause := by
  rw [← String.toList_inj]
  cases operator : clause.keyword? with
  | none => simp [predicateText, predicateOpening, predicateEnd, operator]
  | some keyword => cases keyword <;> simp [predicateText, predicateOpening, predicateEnd, operator]

/-- Whether a text ends with a letter that no connective has. -/
def Sealed (text : String) : Prop :=
  ∃ letter, text.toList.getLast? = some letter ∧ letter ∉ " AND ".toList ∧ letter ∉ " OR ".toList

theorem Sealed.ne_empty {text : String} (closed : Sealed text) : text ≠ "" := by
  rintro rfl
  obtain ⟨_, last, _⟩ := closed
  cases last

theorem sealed_append {left right : String} (closed : Sealed right) : Sealed (left ++ right) := by
  obtain ⟨letter, last, apart⟩ := closed
  refine ⟨letter, ?_, apart⟩
  rw [String.toList_append, List.getLast?_append, last, Option.some_or]

theorem sealed_predicateOpening (entityAlias : String) (clause : Clause) :
    Sealed (predicateOpening entityAlias clause) := by
  have colon : Sealed ":" := ⟨':', rfl, by decide, by decide⟩
  rw [predicateOpening]
  split
  · exact sealed_append ⟨'x', rfl, by decide, by decide⟩
  · exact sealed_append ⟨')', rfl, by decide, by decide⟩
  · exact sealed_append ⟨')', rfl, by decide, by decide⟩
  · exact sealed_append ⟨'L', rfl, by decide, by decide⟩
  · exact sealed_append ⟨'L', rfl, by decide, by decide⟩
  all_goals exact sealed_append ⟨':', rfl, by decide, by decide⟩

theorem withoutTail_append_of_last {front text tail : String} {letter : Char}
    (last : front.toList.getLast? = some letter) (apart : letter ∉ tail.toList) :
    Text.withoutTail tail (front ++ text) = front ++ Text.withoutTail tail text := by
  by_cases within : tail.toList <:+ text.toList
  · obtain ⟨kept, split⟩ := within
    have cut : text = String.ofList kept ++ tail := by
      rw [← String.toList_inj, String.toList_append, String.toList_ofList, split]
    rw [cut, ← String.append_assoc, withoutTail_append, withoutTail_append]
  · rw [withoutTail_of_not_suffix within, withoutTail_of_not_suffix]
    rintro ⟨rest, ends⟩
    rw [String.toList_append] at ends
    have textEnds : text.toList <:+ rest ++ tail.toList := ends ▸ List.suffix_append _ _
    cases Nat.le_total tail.toList.length text.toList.length with
    | inl short => exact within (List.suffix_of_suffix_length_le (List.suffix_append _ _) textEnds short)
    | inr long =>
      -- the tail would reach into the front, and so over its last letter
      obtain ⟨reach, split⟩ := List.suffix_of_suffix_length_le textEnds (List.suffix_append _ _) long
      by_cases nothing : reach = []
      · rw [nothing, List.nil_append] at split
        exact within (split ▸ List.suffix_refl _)
      · rw [← split, ← List.append_assoc] at ends
        rw [← List.append_cancel_right ends, List.getLast?_append, List.getLast?_eq_some_getLast nothing,
          Option.some_or] at last
        rw [← split, ← Option.some.inj last] at apart
        exact apart (List.mem_append_left _ (List.getLast_mem nothing))

theorem withoutTrailingConnective_append_of_sealed {front : String} (closed : Sealed front) (text : String) :
    withoutTrailingConnective (front ++ text) = front ++ withoutTrailingConnective text := by
  obtain ⟨letter, last, notAnd, notOr⟩ := closed
  rw [withoutTrailingConnective, withoutTail_append_of_last last notAnd, withoutTail_append_of_last last notOr]
  rfl

/-! ## Pieces of clauses -/

def piecesText (entityAlias : String) (entries : List (Clause × Option Connective)) : String :=
  String.join (entries.map (pieceText entityAlias))

theorem piecesText_append (entries further : List (Clause × Option Connective)) :
    piecesText entityAlias (entries ++ further) = piecesText entityAlias entries ++ piecesText entityAlias further := by
  rw [piecesText, List.map_append, String.join_append]
  rfl

theorem piecesText_cons (entry : Clause × Option Connective) (further : List (Clause × Option Connective)) :
    piecesText entityAlias (entry :: further) = pieceText entityAlias entry ++ piecesText entityAlias further := by
  rw [piecesText, List.map_cons, String.join_cons]
  rfl

theorem condition_eq_pieces (entityAlias : String) (phrase : Phrase) :
    condition entityAlias phrase.words = withoutTrailingConnective (piecesText entityAlias phrase.clauses) := by
  rw [condition, partsText_phrase, piecesText]

theorem pieceText_column {clause : Clause} (column : clause.field.isCollection = false)
    (connective : Option Connective) :
    pieceText entityAlias (clause, connective) = predicateText entityAlias clause ++ connectiveText connective := by
  rw [pieceText, column, if_neg Bool.false_ne_true]

theorem piecesText_of_collections {entries : List (Clause × Option Connective)}
    (collections : ∀ entry ∈ entries, entry.1.field.isCollection = true) : piecesText entityAlias entries = "" := by
  induction entries with
  | nil => rfl
  | cons entry entries inductionHypothesis =>
    obtain ⟨entryCollection, restCollections⟩ := List.forall_mem_cons.mp collections
    rw [piecesText_cons, inductionHypothesis restCollections, pieceText, if_pos entryCollection]
    rfl

/-- The pieces of clauses, one of them about a column, begin with a predicate. -/
theorem exists_opening (entityAlias : String) {entries : List (Clause × Option Connective)}
    (column : ∃ entry ∈ entries, entry.1.field.isCollection = false) :
    ∃ clause rest, piecesText entityAlias entries = predicateOpening entityAlias clause ++ rest := by
  induction entries with
  | nil =>
    obtain ⟨_, present, _⟩ := column
    cases present
  | cons entry entries inductionHypothesis =>
    rw [piecesText_cons]
    cases here : entry.1.field.isCollection with
    | false =>
      rw [pieceText_column here, predicateText_eq, String.append_assoc, String.append_assoc]
      exact ⟨_, _, rfl⟩
    | true =>
      obtain ⟨other, present, otherColumn⟩ := column
      have later : other ∈ entries := by
        cases List.mem_cons.mp present with
        | inl same =>
          rw [same, here] at otherColumn
          cases otherColumn
        | inr later => exact later
      rw [pieceText, if_pos here, String.empty_append]
      exact inductionHypothesis ⟨other, later, otherColumn⟩

/-- What is taken off the end of a condition stands behind its last predicate. -/
theorem exists_kept (entityAlias : String) {entries : List (Clause × Option Connective)}
    (column : ∃ entry ∈ entries, entry.1.field.isCollection = false) :
    ∃ kept, ∀ front, withoutTrailingConnective (front ++ piecesText entityAlias entries) = front ++ kept := by
  obtain ⟨clause, rest, opening⟩ := exists_opening entityAlias column
  refine ⟨predicateOpening entityAlias clause ++ withoutTrailingConnective rest, fun front => ?_⟩
  have closed : Sealed (front ++ predicateOpening entityAlias clause) :=
    sealed_append (sealed_predicateOpening entityAlias clause)
  rw [opening, ← String.append_assoc, withoutTrailingConnective_append_of_sealed closed, String.append_assoc]

/-! ## Predicates in the condition -/

section Predicates

variable {phrase : Phrase} {clause : Clause}

theorem predicateOpening_infix_condition (entityAlias : String) (member : clause ∈ phrase.members)
    (column : clause.field.isCollection = false) :
    (predicateOpening entityAlias clause).toList <:+: (condition entityAlias phrase.words).toList := by
  rw [← phrase.map_fst_clauses] at member
  obtain ⟨⟨_, connective⟩, listed, rfl⟩ := List.mem_map.mp member
  obtain ⟨earlier, later, split⟩ := List.append_of_mem listed
  rw [condition_eq_pieces, split, piecesText_append, piecesText_cons, pieceText_column column, predicateText_eq,
    String.append_assoc, String.append_assoc, ← String.append_assoc,
    withoutTrailingConnective_append_of_sealed (sealed_append (sealed_predicateOpening _ _)), String.toList_append,
    String.toList_append]
  exact ⟨_, _, rfl⟩

/-- A predicate whose names have no spaces is in the condition as a whole. -/
theorem predicateText_infix_condition (entityAlias : String) (member : clause ∈ phrase.members)
    (column : clause.field.isCollection = false) (spaceless : Spaceless clause) :
    (predicateText entityAlias clause).toList <:+: (condition entityAlias phrase.words).toList := by
  rw [← phrase.map_fst_clauses] at member
  obtain ⟨⟨_, connective⟩, listed, rfl⟩ := List.mem_map.mp member
  obtain ⟨earlier, later, split⟩ := List.append_of_mem listed
  rw [condition_eq_pieces, split, piecesText_append, piecesText_cons, pieceText_column column]
  by_cases columnLater : ∃ entry ∈ later, entry.1.field.isCollection = false
  · -- a predicate behind it keeps the cut away
    obtain ⟨kept, keeps⟩ := exists_kept entityAlias columnLater
    rw [← String.append_assoc, keeps]
    simp only [String.toList_append, List.append_assoc]
    rw [← List.append_assoc]
    exact ⟨_, _, rfl⟩
  · have collections : ∀ entry ∈ later, entry.1.field.isCollection = true := by simpa using columnLater
    -- the predicate is the last one, and what is taken off the end is its connective at most
    rw [piecesText_of_collections collections, String.append_empty, ← String.append_assoc,
      withoutTrailingConnective_append, String.toList_append]
    · exact (List.suffix_append _ _).isInfix
    · rw [endsInSpace_append (predicateText_ne_empty _ _)]
      exact predicateText_visible entityAlias spaceless

end Predicates

/-! ## A connective between two clauses -/

/-- Whether the connective after a clause stands between two predicates, given the clauses behind it. -/
def Joins (clause : Clause) (later : List (Clause × Option Connective)) : Prop :=
  clause.field.isCollection = false ∧ ∃ entry ∈ later, entry.1.field.isCollection = false

variable {earlier later : List (Clause × Option Connective)} {clause : Clause}

theorem condition_of_joined (entityAlias : String) (earlier : List (Clause × Option Connective))
    (joins : Joins clause later) : ∃ front back, ∀ (phrase : Phrase) (connective : Connective),
      phrase.clauses = earlier ++ (clause, some connective) :: later →
        condition entityAlias phrase.words = front ++ connectiveText (some connective) ++ back := by
  obtain ⟨column, columnLater⟩ := joins
  obtain ⟨kept, keeps⟩ := exists_kept entityAlias columnLater
  refine ⟨piecesText entityAlias earlier ++ predicateText entityAlias clause, kept, fun phrase connective split => ?_⟩
  rw [condition_eq_pieces, split, piecesText_append, piecesText_cons, pieceText_column column, ← String.append_assoc,
    keeps, ← String.append_assoc]

theorem condition_of_unjoined (entityAlias : String) (unjoined : ¬ Joins clause later) (spaceless : Spaceless clause)
    {phrase other : Phrase} {connective otherConnective : Connective}
    (split : phrase.clauses = earlier ++ (clause, some connective) :: later)
    (otherSplit : other.clauses = earlier ++ (clause, some otherConnective) :: later) :
    condition entityAlias phrase.words = condition entityAlias other.words := by
  rw [condition_eq_pieces, condition_eq_pieces, split, otherSplit, piecesText_append, piecesText_append,
    piecesText_cons, piecesText_cons]
  cases role : clause.field.isCollection with
  | true => rw [pieceText, pieceText, if_pos role, if_pos role]
  | false =>
    -- nothing stands behind the connective, so it is taken off
    have collections : ∀ entry ∈ later, entry.1.field.isCollection = true := by simpa [Joins, role] using unjoined
    have visible : ¬ EndsInSpace (piecesText entityAlias earlier ++ predicateText entityAlias clause) := by
      rw [endsInSpace_append (predicateText_ne_empty _ _)]
      exact predicateText_visible entityAlias spaceless
    rw [piecesText_of_collections collections, String.append_empty, String.append_empty, pieceText_column role,
      pieceText_column role, ← String.append_assoc, ← String.append_assoc, withoutTrailingConnective_append visible,
      withoutTrailingConnective_append visible]

/-! ## Queries -/

theorem selectText_of_condition {words : List Word} (restricted : condition entityAlias words ≠ "")
    (entityName : String) : selectText words entityName entityAlias =
      selectLead entityAlias ++ " " ++ entityName ++ " AS " ++ entityAlias ++ " WHERE " ++
        condition entityAlias words := by
  rw [selectText, if_neg restricted]
  simp only [String.append_assoc]

theorem infix_selectText {words : List Word} {part : String} (spelled : part ≠ "")
    (within : part.toList <:+: (condition entityAlias words).toList) (entityName : String) :
    part.toList <:+: (selectText words entityName entityAlias).toList := by
  have restricted : condition entityAlias words ≠ "" := by
    intro nothing
    rw [nothing] at within
    exact spelled (String.toList_eq_nil_iff.mp (List.infix_nil.mp within))
  rw [selectText_of_condition restricted, String.toList_append]
  exact within.trans (List.suffix_append _ _).isInfix

theorem selectText_of_joined (entityName entityAlias : String) (earlier : List (Clause × Option Connective))
    (joins : Joins clause later) : ∃ front back, ∀ (phrase : Phrase) (connective : Connective),
      phrase.clauses = earlier ++ (clause, some connective) :: later →
        selectText phrase.words entityName entityAlias = front ++ connectiveText (some connective) ++ back := by
  obtain ⟨front, back, condition_eq⟩ := condition_of_joined entityAlias earlier joins
  refine ⟨selectLead entityAlias ++ " " ++ entityName ++ " AS " ++ entityAlias ++ " WHERE " ++ front, back,
    fun phrase connective split => ?_⟩
  have restricted : condition entityAlias phrase.words ≠ "" := by
    rw [condition_eq phrase connective split]
    obtain ⟨joining, connects⟩ := connective
    cases joining <;> cases connects <;> simp [connectiveText]
  rw [selectText_of_condition restricted, condition_eq phrase connective split]
  simp only [String.append_assoc]

end QueryByName.Query
