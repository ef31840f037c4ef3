import QueryByName.Proofs.Finder.Phrase
import QueryByName.Query.Resolution

/-! # Queries of phrases

What the query of a phrase says, clause by clause.  `predicateText` is the plain meaning of a
clause, and `joinedText` puts the predicates of clauses in a row, each with the connective that
followed it in the phrase.  Clauses about collections are left out, together with whatever
follows them.

The condition is first brought into the form of one piece for each clause (`partsText_phrase`).
Every piece ends with its connective, so exactly one connective may be left over, and
`withoutTrailingConnective_append` takes it off.  Field names with spaces are excluded there: a
name could itself end like a connective.
-/

namespace QueryByName.Query

open QueryByName.Finder (Clause Connective Keyword Operator Phrase Word connectiveWords joinedWords)
open QueryByName.Java (Field Parameter)

/-! ## The meaning of a phrase -/

def predicateText (entityAlias : String) (clause : Clause) : String :=
  let column := entityAlias ++ "." ++ clause.field.name
  let value := ":" ++ clause.field.name
  match clause.keyword? with
  | some .between =>
    column ++ " BETWEEN :min" ++ clause.field.spelling ++ " AND :max" ++ clause.field.spelling
  | some .like => "LOWER(" ++ column ++ ")" ++ " LIKE LOWER(" ++ value ++ ")"
  | some .ilike => "LOWER(" ++ column ++ ")" ++ " LIKE LOWER(" ++ value ++ ")"
  | some .isNull => column ++ " IS NULL"
  | some .isNotNull => column ++ " IS NOT NULL"
  | some .not => column ++ " IS NOT " ++ value
  | some .notEquals => column ++ " != " ++ value
  | some .lessThan => column ++ " < " ++ value
  | some .lessThanEquals => column ++ " <= " ++ value
  | some .greaterThan => column ++ " > " ++ value
  | some .greaterThanEquals => column ++ " >= " ++ value
  -- no keyword, equality and membership
  | _ => column ++ " = " ++ value

def clauseParameters (clause : Clause) : List Parameter :=
  match clause.keyword? with
  | some .isNull => []
  | some .isNotNull => []
  | some .between =>
    [⟨"min" ++ clause.field.spelling, clause.field.type⟩,
      ⟨"max" ++ clause.field.spelling, clause.field.type⟩]
  | _ => [⟨clause.field.name, clause.field.type⟩]

def connectiveText : Option Connective → String
  | none => ""
  | some ⟨.and, _⟩ => " AND "
  | some _ => " OR "

/-- The predicates of clauses in a row.  Between two of them stands the connective that followed
the earlier one. -/
def joinedText (entityAlias : String) : List (Clause × Option Connective) → String
  | [] => ""
  | [(clause, _)] => predicateText entityAlias clause
  | (clause, connective) :: next :: rest =>
    predicateText entityAlias clause ++ connectiveText connective ++ joinedText entityAlias (next :: rest)

def scalarClauses (phrase : Phrase) : List (Clause × Option Connective) :=
  phrase.clauses.filter fun entry => !entry.1.field.isCollection

/-! ## Sections -/

def sectionOf (entry : Clause × Option Connective) : Section where
  field := entry.1.field
  keywords := entry.1.keyword?.toList ++ entry.2.toList.map Subtype.val

theorem leadingKeywords_append (keywords : List Keyword) {rest : List Word}
    (fieldNext : leadingKeywords rest = []) :
    leadingKeywords (keywords.map .keyword ++ rest) = keywords := by
  induction keywords with
  | nil => exact fieldNext
  | cons keyword keywords inductionHypothesis => simp [leadingKeywords, inductionHypothesis]

theorem sections_append (keywords : List Keyword) (rest : List Word) :
    sections (keywords.map .keyword ++ rest) = sections rest := by
  induction keywords with
  | nil => rfl
  | cons keyword keywords inductionHypothesis => simpa [sections] using inductionHypothesis

theorem entry_words (entry : Clause × Option Connective) :
    entry.1.words ++ connectiveWords entry.2 =
      .field entry.1.field :: (sectionOf entry).keywords.map .keyword := by
  simp [Clause.words, connectiveWords, sectionOf]

theorem leadingKeywords_flatMap (entries : List (Clause × Option Connective)) :
    leadingKeywords (entries.flatMap fun entry => entry.1.words ++ connectiveWords entry.2) = [] := by
  cases entries with
  | nil => rfl
  | cons entry entries => rfl

theorem sections_flatMap (entries : List (Clause × Option Connective)) :
    sections (entries.flatMap fun entry => entry.1.words ++ connectiveWords entry.2) =
      entries.map sectionOf := by
  induction entries with
  | nil => rfl
  | cons entry entries inductionHypothesis =>
    rw [List.flatMap_cons, entry_words, List.cons_append, sections,
      leadingKeywords_append _ (leadingKeywords_flatMap entries), sections_append, inductionHypothesis]
    rfl

theorem sections_phrase (phrase : Phrase) : sections phrase.words = phrase.clauses.map sectionOf := by
  rw [phrase.words_eq, sections_flatMap]

/-! ## Pieces

The piece of a clause is its predicate with the connective after it, or nothing if its field is
no column.  Inside the condition and at its end the pieces come out alike. -/

/-- What a clause and the connective after it add to the condition. -/
def pieceText (entityAlias : String) (entry : Clause × Option Connective) : String :=
  if entry.1.field.isCollection then ""
  else predicateText entityAlias entry.1 ++ connectiveText entry.2

@[simp] theorem remarks_nil (field : Field) (said : Bool) : remarks field said [] = ("", said) := rfl

theorem remarks_append_connective (field : Field) (said : Bool) (keywords : List Keyword)
    (connective : Connective) :
    remarks field said (keywords ++ [connective.val]) =
      ((remarks field said keywords).1 ++ completion field (remarks field said keywords).2 ++
        connectiveText (some connective), true) := by
  obtain ⟨joining, connects⟩ := connective
  -- what was said before the connective decides whether it completes an equality
  induction keywords generalizing said with
  | nil => cases joining <;> cases connects <;> simp [remarks, connective?, connectiveText]
  | cons keyword keywords inductionHypothesis =>
    cases keyword <;> simp [remarks, connective?, predicate?, inductionHypothesis, String.append_assoc]

theorem column_connective (entityAlias : String) (field : Field) (connective : Connective) :
    column entityAlias field connective.val = entityAlias ++ "." ++ field.name := by
  obtain ⟨joining, connects⟩ := connective
  cases joining <;> cases connects <;> rfl

theorem lastPart_alone (entityAlias : String) (clause : Clause) :
    lastPart entityAlias (sectionOf (clause, none)) = pieceText entityAlias (clause, none) := by
  obtain ⟨field, operator⟩ := clause
  by_cases collection : field.isCollection = true
  · simp [lastPart, sectionOf, pieceText, collection]
  · cases operator with
    | none =>
      simp [lastPart, sectionOf, pieceText, predicateText, Clause.keyword?, collection, equality, placeholder,
        connectiveText, String.append_assoc]
    | some operator =>
      obtain ⟨keyword, plain⟩ := operator
      -- as lists of letters the two sides do not depend on how the text is cut into strings
      rw [← String.toList_inj]
      cases keyword <;> cases plain <;>
        simp [lastPart, sectionOf, pieceText, predicateText, Clause.keyword?, collection, column, remarks,
          connective?, predicate?, completion, equality, placeholder, connectiveText, Keyword.ignoresCase]

theorem lastPart_followed (entityAlias : String) (clause : Clause) (connective : Connective) :
    lastPart entityAlias (sectionOf (clause, some connective)) =
      pieceText entityAlias (clause, some connective) := by
  have alone := lastPart_alone entityAlias clause
  have said := remarks_append_connective clause.field false clause.keyword?.toList connective
  by_cases collection : clause.field.isCollection = true
  · simp [lastPart, sectionOf, pieceText, collection]
  · have follows : pieceText entityAlias (clause, some connective) =
        pieceText entityAlias (clause, none) ++ connectiveText (some connective) := by
      simp [pieceText, collection, connectiveText]
    rw [follows, ← alone]
    cases keyword : clause.keyword? with
    | none =>
      rw [keyword] at said
      simp only [Option.toList_none, List.nil_append] at said
      simp [lastPart, sectionOf, collection, keyword, said, column_connective, completion, String.append_assoc]
    | some operator =>
      rw [keyword] at said
      simp only [Option.toList_some, List.singleton_append] at said
      simp [lastPart, sectionOf, collection, keyword, said, completion, String.append_assoc]

theorem lastPart_sectionOf (entityAlias : String) (entry : Clause × Option Connective) :
    lastPart entityAlias (sectionOf entry) = pieceText entityAlias entry := by
  obtain ⟨clause, connective⟩ := entry
  cases connective with
  | none => exact lastPart_alone entityAlias clause
  | some connective => exact lastPart_followed entityAlias clause connective

theorem innerPart_sectionOf (entityAlias : String) (clause : Clause) (connective : Connective) :
    innerPart entityAlias (sectionOf (clause, some connective)) =
      pieceText entityAlias (clause, some connective) := by
  have said := remarks_append_connective clause.field false clause.keyword?.toList connective
  -- the two parts differ only in what they complete, and the connective has completed it
  rw [← lastPart_sectionOf]
  by_cases collection : clause.field.isCollection = true
  · cases keyword : clause.keyword? <;> simp [innerPart, lastPart, sectionOf, collection, keyword]
  · cases keyword : clause.keyword? with
    | none =>
      rw [keyword] at said
      simp only [Option.toList_none, List.nil_append] at said
      simp [innerPart, lastPart, sectionOf, collection, keyword, said, completion]
    | some operator =>
      rw [keyword] at said
      simp only [Option.toList_some, List.singleton_append] at said
      simp [innerPart, lastPart, sectionOf, collection, keyword, said, completion]

theorem partsText_clausesFrom (entityAlias : String) (trailing : Option Connective) (first : Clause)
    (further : List (Connective × Clause)) :
    partsText entityAlias ((Phrase.clausesFrom trailing first further).map sectionOf) =
      String.join ((Phrase.clausesFrom trailing first further).map (pieceText entityAlias)) := by
  induction further generalizing first with
  | nil => simp [Phrase.clausesFrom, partsText, lastPart_sectionOf]
  | cons joined rest inductionHypothesis =>
    obtain ⟨connective, next⟩ := joined
    -- a further section follows, so this one does not stand at the end of the condition
    have split : ∃ head tail, (Phrase.clausesFrom trailing next rest).map sectionOf = head :: tail := by
      cases rest <;> exact ⟨_, _, rfl⟩
    obtain ⟨head, tail, split⟩ := split
    rw [Phrase.clausesFrom, List.map_cons, List.map_cons, String.join_cons, ← inductionHypothesis next, split,
      partsText, innerPart_sectionOf]

theorem partsText_phrase (entityAlias : String) (phrase : Phrase) :
    partsText entityAlias (sections phrase.words) =
      String.join (phrase.clauses.map (pieceText entityAlias)) := by
  rw [sections_phrase]
  exact partsText_clausesFrom entityAlias phrase.trailing phrase.first phrase.further

theorem join_pieceText (entityAlias : String) (entries : List (Clause × Option Connective)) :
    String.join (entries.map (pieceText entityAlias)) =
      String.join ((entries.filter fun entry => !entry.1.field.isCollection).map fun entry =>
        predicateText entityAlias entry.1 ++ connectiveText entry.2) := by
  induction entries with
  | nil => rfl
  | cons entry entries inductionHypothesis =>
    by_cases collection : entry.1.field.isCollection = true
    · simp [pieceText, collection, inductionHypothesis]
    · simp [pieceText, collection, inductionHypothesis]

def leftover (entries : List (Clause × Option Connective)) : Option Connective :=
  entries.getLast?.bind Prod.snd

theorem join_eq_joinedText (entityAlias : String) (entries : List (Clause × Option Connective)) :
    String.join (entries.map fun entry => predicateText entityAlias entry.1 ++ connectiveText entry.2) =
      joinedText entityAlias entries ++ connectiveText (leftover entries) := by
  induction entries with
  | nil => rfl
  | cons entry entries inductionHypothesis =>
    obtain ⟨clause, connective⟩ := entry
    cases entries with
    | nil => simp [joinedText, leftover]
    | cons next rest =>
      rw [List.map_cons, String.join_cons, inductionHypothesis, joinedText, leftover, leftover,
        List.getLast?_cons_cons, String.append_assoc, String.append_assoc, String.append_assoc]

/-! ## The connective left over

A connective begins and ends with a space.  What stands before it must not end with a space, or
something in front of it might be taken for another connective. -/

def EndsInSpace (text : String) : Prop :=
  text.toList.getLast? = some ' '

theorem endsInSpace_append {left right : String} (nonempty : right ≠ "") :
    EndsInSpace (left ++ right) ↔ EndsInSpace right := by
  have letters : right.toList ≠ [] := mt String.toList_eq_nil_iff.mp nonempty
  rw [EndsInSpace, EndsInSpace, String.toList_append, List.getLast?_append, List.getLast?_eq_some_getLast letters,
    Option.some_or]

theorem not_endsInSpace_of_spaceless {text : String} (spaceless : ' ' ∉ text.toList) : ¬ EndsInSpace text :=
  fun ends => spaceless (List.mem_of_getLast? ends)

theorem withoutTail_append (text tail : String) : Text.withoutTail tail (text ++ tail) = text := by
  have dropped : Text.dropLead? tail.toList.reverse (text ++ tail).toList.reverse = some text.toList.reverse := by
    rw [Text.dropLead?_eq_some_iff, String.toList_append, List.reverse_append]
  rw [Text.withoutTail, dropped]
  simp

theorem withoutTail_of_not_suffix {tail text : String} (absent : ¬ tail.toList <:+ text.toList) :
    Text.withoutTail tail text = text := by
  rw [Text.withoutTail]
  split
  · rename_i dropped
    have split := Text.dropLead?_eq_some_iff.mp dropped
    exact absurd (List.reverse_prefix.mp ⟨_, split.symm⟩) absent
  · rfl

theorem not_suffix_of_not_endsInSpace {tail text : String} (tailEnds : EndsInSpace tail)
    (visible : ¬ EndsInSpace text) : ¬ tail.toList <:+ text.toList := by
  intro ends
  obtain ⟨front, split⟩ := ends
  apply visible
  rw [EndsInSpace, ← split, List.getLast?_append, tailEnds, Option.some_or]

theorem withoutTrailingConnective_append {text : String} (visible : ¬ EndsInSpace text)
    (connective : Option Connective) :
    withoutTrailingConnective (text ++ connectiveText connective) = text := by
  have noAnd : ¬ " AND ".toList <:+ text.toList := not_suffix_of_not_endsInSpace rfl visible
  have noOr : ¬ " OR ".toList <:+ text.toList := not_suffix_of_not_endsInSpace rfl visible
  cases connective with
  | none =>
    rw [connectiveText, String.append_empty, withoutTrailingConnective, withoutTail_of_not_suffix noAnd,
      withoutTail_of_not_suffix noOr]
  | some connective =>
    obtain ⟨joining, connects⟩ := connective
    cases joining with
    | and =>
      show Text.withoutTail " OR " (Text.withoutTail " AND " (text ++ " AND ")) = text
      rw [withoutTail_append, withoutTail_of_not_suffix noOr]
    | or =>
      -- the other connective is looked for first, and its letters differ
      have noAndInstead : ¬ " AND ".toList <:+ (text ++ " OR ").toList := by
        intro ends
        rw [String.toList_append] at ends
        have shorter := List.suffix_of_suffix_length_le (List.suffix_append text.toList " OR ".toList) ends (by decide)
        exact absurd shorter (by decide)
      show Text.withoutTail " OR " (Text.withoutTail " AND " (text ++ " OR ")) = text
      rw [withoutTail_of_not_suffix noAndInstead, withoutTail_append]
    | _ => cases connects

structure Spaceless (clause : Clause) : Prop where
  name : ' ' ∉ clause.field.name.toList
  spelling : ' ' ∉ clause.field.spelling.toList

instance (clause : Clause) : Decidable (Spaceless clause) :=
  decidable_of_iff (' ' ∉ clause.field.name.toList ∧ ' ' ∉ clause.field.spelling.toList)
    ⟨fun checked => ⟨checked.1, checked.2⟩, fun spaceless => ⟨spaceless.name, spaceless.spelling⟩⟩

theorem not_endsInSpace_append_spaceless {left right : String} (visible : ¬ EndsInSpace left)
    (spaceless : ' ' ∉ right.toList) : ¬ EndsInSpace (left ++ right) := by
  by_cases empty : right = ""
  · rwa [empty, String.append_empty]
  · rw [endsInSpace_append empty]
    exact not_endsInSpace_of_spaceless spaceless

theorem predicateText_visible (entityAlias : String) {clause : Clause} (spaceless : Spaceless clause) :
    ¬ EndsInSpace (predicateText entityAlias clause) := by
  have colon (left : String) : ¬ EndsInSpace (left ++ (":" ++ clause.field.name)) := by
    rw [endsInSpace_append (by simp)]
    exact not_endsInSpace_append_spaceless (by simp [EndsInSpace]) spaceless.name
  have bound (left : String) : ¬ EndsInSpace (left ++ " AND :max" ++ clause.field.spelling) := by
    refine not_endsInSpace_append_spaceless ?_ spaceless.spelling
    rw [endsInSpace_append (by simp)]
    simp [EndsInSpace]
  have closed (left : String) : ¬ EndsInSpace (left ++ ")") := by
    rw [endsInSpace_append (by simp)]
    simp [EndsInSpace]
  have null (left : String) : ¬ EndsInSpace (left ++ " IS NULL") := by
    rw [endsInSpace_append (by simp)]
    simp [EndsInSpace]
  have notNull (left : String) : ¬ EndsInSpace (left ++ " IS NOT NULL") := by
    rw [endsInSpace_append (by simp)]
    simp [EndsInSpace]
  rw [predicateText]
  split
  · exact bound _
  · exact closed _
  · exact closed _
  · exact null _
  · exact notNull _
  · exact colon _
  · exact colon _
  · exact colon _
  · exact colon _
  · exact colon _
  · exact colon _
  · exact colon _

theorem predicateText_ne_empty (entityAlias : String) (clause : Clause) :
    predicateText entityAlias clause ≠ "" := by
  rw [predicateText]
  split <;> simp

theorem joinedText_ne_empty (entityAlias : String) {entries : List (Clause × Option Connective)}
    (present : entries ≠ []) : joinedText entityAlias entries ≠ "" := by
  cases entries with
  | nil => exact absurd rfl present
  | cons entry rest =>
    cases rest <;> simp [joinedText, predicateText_ne_empty]

theorem joinedText_visible (entityAlias : String) {entries : List (Clause × Option Connective)}
    (spaceless : ∀ entry ∈ entries, Spaceless entry.1) : ¬ EndsInSpace (joinedText entityAlias entries) := by
  induction entries with
  | nil => simp [joinedText, EndsInSpace]
  | cons entry rest inductionHypothesis =>
    obtain ⟨entrySpaceless, restSpaceless⟩ := List.forall_mem_cons.mp spaceless
    cases rest with
    | nil => exact predicateText_visible entityAlias entrySpaceless
    | cons next rest =>
      rw [joinedText, endsInSpace_append (joinedText_ne_empty entityAlias (List.cons_ne_nil next rest))]
      exact inductionHypothesis restSpaceless

/-! ## The query of a phrase -/

theorem condition_words (entityAlias : String) (phrase : Phrase)
    (spaceless : ∀ entry ∈ phrase.clauses, Spaceless entry.1) :
    condition entityAlias phrase.words = joinedText entityAlias (scalarClauses phrase) := by
  have scalarSpaceless : ∀ entry ∈ scalarClauses phrase, Spaceless entry.1 :=
    fun entry scalar => spaceless entry (List.mem_filter.mp scalar).1
  -- the pieces of the clauses about columns, then the connective that follows the last of them
  rw [condition, partsText_phrase, join_pieceText, ← scalarClauses, join_eq_joinedText]
  exact withoutTrailingConnective_append (joinedText_visible entityAlias scalarSpaceless) _

theorem parameters_keywords (keywords : List Keyword) (rest : List Word) :
    parameters (keywords.map .keyword ++ rest) = parameters rest := by
  induction keywords with
  | nil => rfl
  | cons keyword keywords inductionHypothesis => simpa [parameters] using inductionHypothesis

theorem fieldParameters_connective (field : Field) (connective : Connective) :
    fieldParameters field (some connective.val) = fieldParameters field none := by
  obtain ⟨joining, connects⟩ := connective
  cases joining <;> cases connects <;> rfl

theorem fieldParameters_next (entry : Clause × Option Connective) {rest : List Word}
    (fieldNext : rest.head?.bind Word.keyword? = none) :
    fieldParameters entry.1.field
        (((sectionOf entry).keywords.map Word.keyword ++ rest).head?.bind Word.keyword?) =
      clauseParameters entry.1 := by
  obtain ⟨clause, connective⟩ := entry
  -- a null test or a range shows in the keyword, and a connective is neither
  cases operator : clause.keyword? with
  | some keyword => cases keyword <;> simp [sectionOf, clauseParameters, operator, Word.keyword?, fieldParameters]
  | none =>
    cases connective with
    | none => simp [sectionOf, clauseParameters, operator, fieldNext, fieldParameters]
    | some connective =>
      simp only [sectionOf, clauseParameters, operator]
      exact fieldParameters_connective clause.field connective

theorem parameters_words (phrase : Phrase) :
    parameters phrase.words = phrase.clauses.flatMap fun entry => clauseParameters entry.1 := by
  rw [phrase.words_eq]
  generalize phrase.clauses = entries
  induction entries with
  | nil => rfl
  | cons entry entries inductionHypothesis =>
    have fieldNext : (entries.flatMap fun entry => entry.1.words ++ connectiveWords entry.2).head?.bind
        Word.keyword? = none := by
      cases entries <;> rfl
    rw [List.flatMap_cons, List.flatMap_cons, entry_words, List.cons_append, parameters, parameters_keywords,
      inductionHypothesis, fieldParameters_next entry fieldNext]

/-- The query of a phrase states the predicates of its clauses about columns, and its parameters
are those of all its clauses. -/
theorem selectText_words (phrase : Phrase) (spaceless : ∀ entry ∈ phrase.clauses, Spaceless entry.1)
    (entityName entityAlias : String) :
    condition entityAlias phrase.words = joinedText entityAlias (scalarClauses phrase) ∧
    selectText phrase.words entityName entityAlias =
      "SELECT " ++ entityAlias ++ " FROM " ++ entityName ++ " AS " ++ entityAlias ++
        (match scalarClauses phrase with
        | [] => ""
        | scalar :: rest => " WHERE " ++ joinedText entityAlias (scalar :: rest)) ∧
    parameters phrase.words = phrase.clauses.flatMap fun entry => clauseParameters entry.1 := by
  have stated := condition_words entityAlias phrase spaceless
  refine ⟨stated, ?_, parameters_words phrase⟩
  rw [selectText, stated, selectLead]
  cases scalars : scalarClauses phrase with
  | nil => simp [joinedText, ← String.toList_inj]
  | cons scalar rest =>
    have present := joinedText_ne_empty entityAlias (List.cons_ne_nil scalar rest)
    simp [present, ← String.toList_inj]

/-- Clauses about columns around one about a collection, with a connective left over. -/
def mixedPhrase : Phrase where
  first := ⟨⟨"name", .named "java.lang.String", false, false, []⟩, some ⟨.like, rfl⟩⟩
  further :=
    [(⟨.and, rfl⟩, ⟨⟨"tags", .named "java.util.Set", false, false, []⟩, some ⟨.member, rfl⟩⟩),
      (⟨.or, rfl⟩, ⟨⟨"age", .named "int", false, false, []⟩, some ⟨.between, rfl⟩⟩)]
  trailing := some ⟨.and, rfl⟩

theorem selectText_words_mixed : (∀ entry ∈ mixedPhrase.clauses, Spaceless entry.1) ∧
    selectText mixedPhrase.words "Person" "o" =
      "SELECT o FROM Person AS o WHERE LOWER(o.name) LIKE LOWER(:name) AND o.age BETWEEN :minAge AND :maxAge" := by
  have spaceless : ∀ entry ∈ mixedPhrase.clauses, Spaceless entry.1 := by decide
  obtain ⟨_, query, _⟩ := selectText_words mixedPhrase spaceless "Person" "o"
  exact ⟨spaceless, query.trans (by decide +kernel)⟩

end QueryByName.Query
