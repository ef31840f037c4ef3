import Mathlib.Data.List.Basic
import QueryByName.Java.StringLiteral
import QueryByName.Method.Body
import QueryByName.Proofs.Query.Alignment
import QueryByName.Proofs.Query.PhraseQuery

/-! # Queries of phrases over plain columns

For a phrase whose fields are columns with plain names, both queries say what the phrase says
(`renders_selectText`, `renders_countingForm`): the placeholders are the names of the parameters,
a column is tested against an open pattern exactly for the fields that a pattern keyword follows,
and no letter needs an escape.

The two queries differ only in their lead, so everything is shown for any lead that mentions no
parameter (`IsLead`).  Patterns are found by the names after a bracket and a colon: nothing else
in a query is written like that, as the only other name after a bracket is the alias.
-/

namespace QueryByName.Query

open QueryByName.Finder (Clause Connective Keyword Operator Phrase Word connectiveWords)
open QueryByName.Java (Field Parameter StringLiteral.escape StringLiteral.escapeAll StringLiteral.escaped isNameLetter
  isPlainIdentifier isPlainIdentifierText)
open QueryByName.Text (nameLead namesIn)

/-! ## Sections of a phrase -/

theorem isConnective_of_mem_connective {connective : Option Connective} {keyword : Keyword}
    (present : keyword ∈ connective.toList.map Subtype.val) : keyword.isConnective = true := by
  obtain ⟨joining, _, rfl⟩ := List.mem_map.mp present
  exact joining.property

theorem filter_connective (connective : Option Connective) :
    (connective.toList.map Subtype.val).filter isRemark = connective.toList.map Subtype.val := by
  refine List.filter_eq_self.mpr fun keyword present => ?_
  cases keyword with
  | member => cases isConnective_of_mem_connective present
  | _ => rfl

theorem single_of_mem_connective {connective : Option Connective} {keyword : Keyword}
    (present : keyword ∈ connective.toList.map Subtype.val) : keyword.needsNoValue = false ∧ keyword ≠ .between := by
  have connects := isConnective_of_mem_connective present
  cases keyword <;> cases connects <;> decide

/-- At most one keyword speaks before the connective of a clause, so nothing can take a value after it. -/
theorem regular_sectionOf (entry : Clause × Option Connective) : (sectionOf entry).Regular := by
  obtain ⟨clause, connective⟩ := entry
  have unspoken {part : Section} (filtered : part.keywords.filter isRemark = connective.toList.map Subtype.val) :
      part.Regular := by
    refine ⟨fun keyword present => ?_, fun _ keyword present => ?_⟩
    · rw [filtered] at present
      exact .inl (isConnective_of_mem_connective (List.mem_of_mem_tail present))
    · rw [filtered] at present
      exact single_of_mem_connective (List.mem_of_mem_head? present)
  cases operator : clause.keyword? with
  | none => exact unspoken (by rw [sectionOf, operator, Option.toList_none, List.nil_append, filter_connective])
  | some keyword =>
    have keywords : (sectionOf (clause, connective)).keywords = keyword :: connective.toList.map Subtype.val := by
      rw [sectionOf, operator, Option.toList_some, List.singleton_append]
    cases speaks : isRemark keyword with
    | false =>
      apply unspoken
      rw [keywords, List.filter_cons_of_neg (by simp [speaks]), filter_connective]
    | true =>
      refine ⟨fun other present => ?_, fun membership => ?_⟩
      · rw [keywords, List.filter_cons_of_pos speaks, List.tail_cons, filter_connective] at present
        exact .inl (isConnective_of_mem_connective present)
      · rw [keywords, List.head?_cons] at membership
        rw [Option.some.inj membership] at speaks
        cases speaks

theorem closed_sectionOf (clause : Clause) (connective : Connective) :
    (sectionOf (clause, some connective)).Closed := by
  refine ⟨connective.val, by simp [sectionOf], ?_⟩
  rw [endsName, connective.property, Bool.true_or, Bool.true_or]

theorem closed_of_mem_dropLast {trailing : Option Connective} {first : Clause}
    {further : List (Connective × Clause)} {part : Section}
    (present : part ∈ ((Phrase.clausesFrom trailing first further).map sectionOf).dropLast) : part.Closed := by
  induction further generalizing first with
  | nil => cases present
  | cons joined rest inductionHypothesis =>
    obtain ⟨connective, next⟩ := joined
    rw [Phrase.clausesFrom, List.map_cons] at present
    rw [List.dropLast_cons_of_ne_nil (by cases rest <;> simp [Phrase.clausesFrom])] at present
    cases List.mem_cons.mp present with
    | inl here =>
      rw [here]
      exact closed_sectionOf first connective
    | inr later => exact inductionHypothesis later

/-! ## Placeholders -/

/-- A phrase whose clauses are about columns with plain names. -/
structure PlainPhrase (phrase : Phrase) : Prop where
  scalar : ∀ clause ∈ phrase.members, clause.field.isCollection = false
  plain : ∀ clause ∈ phrase.members, isPlainIdentifier clause.field.name = true

/-- The parameters of such a phrase are no collections, and their names are plain. -/
theorem PlainPhrase.parameters_column {phrase : Phrase} (plainPhrase : PlainPhrase phrase) :
    ∀ parameter ∈ parameters phrase.words,
      parameter.type.isCollection = false ∧ isPlainIdentifier parameter.name = true := by
  intro parameter present
  obtain ⟨field, inWords, type, name⟩ := exists_field_of_mem_parameters present
  obtain ⟨clause, member, rfl⟩ := Phrase.exists_member_of_field_mem inWords
  have plain := plainPhrase.plain clause member
  have bound {letters : String} (lead : isPlainIdentifier letters = true) :
      isPlainIdentifier (letters ++ clause.field.spelling) = true := by
    rw [isPlainIdentifier, String.toList_append]
    exact Java.isPlainIdentifierText_append lead (Java.isNameLetter_of_mem (isPlainIdentifierText_spelling plain))
  refine ⟨type ▸ plainPhrase.scalar clause member, ?_⟩
  obtain same | least | greatest := name
  · rwa [same]
  · rw [least]
    exact bound rfl
  · rw [greatest]
    exact bound rfl

variable {phrase : Phrase} {entityName entityAlias : String}

theorem placeholders_phrase (plainPhrase : PlainPhrase phrase) (entityPlain : isPlainIdentifier entityName = true)
    (aliasPlain : isPlainIdentifier entityAlias = true) :
    placeholders (selectText phrase.words entityName entityAlias) = (parameters phrase.words).map (·.name) := by
  have ofClause {part : Section} (present : part ∈ sections phrase.words) :
      ∃ clause ∈ phrase.members, clause.field = part.field := by
    rw [sections_phrase] at present
    obtain ⟨entry, listed, rfl⟩ := List.mem_map.mp present
    exact ⟨entry.1, Phrase.mem_members_of_mem_clauses listed, rfl⟩
  have plain : ∀ part ∈ sections phrase.words, isPlainIdentifier part.field.name = true := by
    intro part present
    obtain ⟨clause, member, same⟩ := ofClause present
    rw [← same]
    exact plainPhrase.plain clause member
  have scalar : ∀ part ∈ sections phrase.words, part.field.isCollection = false := by
    intro part present
    obtain ⟨clause, member, same⟩ := ofClause present
    rw [← same]
    exact plainPhrase.scalar clause member
  have regular : ∀ part ∈ sections phrase.words, part.Regular := by
    intro part present
    rw [sections_phrase] at present
    obtain ⟨entry, _, rfl⟩ := List.mem_map.mp present
    exact regular_sectionOf entry
  have closed : ∀ part ∈ (sections phrase.words).dropLast, part.Closed := by
    intro part present
    rw [sections_phrase] at present
    exact closed_of_mem_dropLast present
  rw [placeholders_selectText entityPlain aliasPlain plain, mentioned_eq_bound entityAlias scalar regular closed,
    names_parameters]

/-! ## Patterns -/

/-- The name of the field of a clause that a pattern keyword follows. -/
def clausePattern (clause : Clause) : List String :=
  if clause.keyword?.any (·.ignoresCase) then [clause.field.name] else []

theorem patternFields_keywords (keywords : List Keyword) (rest : List Word) :
    Method.patternFields (keywords.map .keyword ++ rest) = Method.patternFields rest := by
  induction keywords with
  | nil => rfl
  | cons keyword keywords inductionHypothesis => simpa [Method.patternFields] using inductionHypothesis

theorem ignoresCase_connective (connective : Connective) : connective.val.ignoresCase = false := by
  obtain ⟨joining, connects⟩ := connective
  cases joining <;> cases connects <;> rfl

theorem ignoresCase_next (entry : Clause × Option Connective) {rest : List Word}
    (fieldNext : rest.head?.bind Word.keyword? = none) :
    (((sectionOf entry).keywords.map Word.keyword ++ rest).head?.bind Word.keyword?).any (·.ignoresCase) =
      entry.1.keyword?.any (·.ignoresCase) := by
  obtain ⟨clause, connective⟩ := entry
  cases operator : clause.keyword? with
  | some keyword => simp [sectionOf, operator, Word.keyword?]
  | none =>
    cases connective with
    | none => simp [sectionOf, operator, fieldNext]
    | some connective => simp [sectionOf, operator, Word.keyword?, ignoresCase_connective]

theorem patternFields_words (phrase : Phrase) :
    Method.patternFields phrase.words = phrase.clauses.flatMap fun entry => clausePattern entry.1 := by
  rw [phrase.words_eq]
  generalize phrase.clauses = entries
  induction entries with
  | nil => rfl
  | cons entry entries inductionHypothesis =>
    have fieldNext : (entries.flatMap fun entry => entry.1.words ++ connectiveWords entry.2).head?.bind
        Word.keyword? = none := by
      cases entries <;> rfl
    rw [List.flatMap_cons, List.flatMap_cons, entry_words, List.cons_append, Method.patternFields,
      patternFields_keywords, inductionHypothesis, ignoresCase_next entry fieldNext, clausePattern]
    split <;> rfl

/-! ### Names after an opening bracket -/

/-- A name that is folded to one case stands between a bracket and no colon. -/
theorem namesIn_bracket_append {name : List Char} (plain : isPlainIdentifierText name = true) (text : List Char) :
    namesIn ['(', ':'] ('(' :: (name ++ text)) = namesIn ['(', ':'] text := by
  have apart : '(' ∉ name := Java.not_mem_of_not_nameLetter plain rfl
  have noColon : ':' ∉ name := Java.not_mem_of_not_nameLetter plain rfl
  cases name with
  | nil => cases plain
  | cons letter rest =>
    have other : ':' ≠ letter := List.ne_of_not_mem_cons noColon
    rw [List.cons_append, namesIn, Text.dropLead?, if_pos rfl, Text.dropLead?, if_neg other, ← List.cons_append]
    exact Text.namesIn_skip apart text

theorem namesIn_bracket_pattern {name : List Char} (plain : isPlainIdentifierText name = true) (text : List Char) :
    namesIn ['(', ':'] ('(' :: ':' :: (name ++ ')' :: text)) = name :: namesIn ['(', ':'] text := by
  have named : namesIn ['(', ':'] ('(' :: ([':'] ++ (name ++ ')' :: text))) =
      (name ++ nameLead (')' :: text)) :: namesIn ['(', ':'] (')' :: text) :=
    Text.namesIn_sign_append (by decide) rfl plain _
  have closing : namesIn ['(', ':'] (')' :: text) = namesIn ['(', ':'] text := Text.namesIn_cons_of_ne (by decide) text
  rwa [Text.nameLead_cons_of_apart rfl, List.append_nil, closing] at named

theorem bracket_not_mem_predicateText (aliasPlain : isPlainIdentifier entityAlias = true) {clause : Clause}
    (plain : isPlainIdentifier clause.field.name = true)
    (unfolded : ¬ clause.keyword?.any (·.ignoresCase) = true) : '(' ∉ (predicateText entityAlias clause).toList := by
  have aliasApart : '(' ∉ entityAlias.toList := Java.not_mem_of_not_nameLetter aliasPlain rfl
  have nameApart : '(' ∉ clause.field.name.toList := Java.not_mem_of_not_nameLetter plain rfl
  have spellingApart : '(' ∉ clause.field.spelling.toList :=
    Java.not_mem_of_not_nameLetter (isPlainIdentifierText_spelling plain) rfl
  cases operator : clause.keyword? with
  | none => simp [predicateText, operator, aliasApart, nameApart]
  | some keyword =>
    rw [operator, Option.any_some] at unfolded
    cases keyword <;> simp_all [predicateText, Keyword.ignoresCase]

/-- Both pattern keywords compare the folded column with the folded value. -/
theorem predicateText_of_ignoresCase {clause : Clause} (folds : clause.keyword?.any (·.ignoresCase) = true) :
    predicateText entityAlias clause =
      "LOWER(" ++ (entityAlias ++ "." ++ clause.field.name) ++ ")" ++
        " LIKE LOWER(" ++ (":" ++ clause.field.name) ++ ")" := by
  cases operator : clause.keyword? with
  | none =>
    rw [operator] at folds
    cases folds
  | some keyword =>
    rw [operator, Option.any_some] at folds
    rw [predicateText, operator]
    cases keyword with
    | like | ilike => rfl
    | _ => cases folds

theorem namesIn_bracket_predicateText (aliasPlain : isPlainIdentifier entityAlias = true) {clause : Clause}
    (plain : isPlainIdentifier clause.field.name = true) (text : List Char) :
    namesIn ['(', ':'] ((predicateText entityAlias clause).toList ++ text) =
      (clausePattern clause).map String.toList ++ namesIn ['(', ':'] text := by
  rw [clausePattern]
  split
  · rename_i folds
    have column (text : List Char) : namesIn ['(', ':'] (clause.field.name.toList ++ text) =
        namesIn ['(', ':'] text := Text.namesIn_skip (Java.not_mem_of_not_nameLetter plain rfl) text
    rw [predicateText_of_ignoresCase folds]
    -- the bracket before the alias is passed over, and the one before the colon gives the name
    simp [Text.namesIn_cons_of_ne, namesIn_bracket_append aliasPlain, column, namesIn_bracket_pattern plain]
  · rename_i unfolded
    exact Text.namesIn_skip (bracket_not_mem_predicateText aliasPlain plain unfolded) text

theorem namesIn_bracket_joinedText (aliasPlain : isPlainIdentifier entityAlias = true)
    {entries : List (Clause × Option Connective)}
    (plain : ∀ entry ∈ entries, isPlainIdentifier entry.1.field.name = true) :
    namesIn ['(', ':'] (joinedText entityAlias entries).toList =
      (entries.flatMap fun entry => clausePattern entry.1).map String.toList := by
  induction entries with
  | nil => rfl
  | cons entry rest inductionHypothesis =>
    obtain ⟨entryPlain, restPlain⟩ := List.forall_mem_cons.mp plain
    obtain ⟨clause, connective⟩ := entry
    cases rest with
    | nil =>
      have alone := namesIn_bracket_predicateText aliasPlain entryPlain []
      simpa [joinedText, namesIn] using alone
    | cons next rest =>
      have apart : '(' ∉ (connectiveText connective).toList := by
        rw [connectiveText.eq_def]
        split <;> decide
      rw [List.flatMap_cons, List.map_append, ← inductionHypothesis restPlain, joinedText, String.append_assoc,
        String.toList_append, namesIn_bracket_predicateText aliasPlain entryPlain, String.toList_append,
        Text.namesIn_skip apart]

/-! ### Patterns in the text -/

/-- The test of a column against an open pattern. -/
def patternTest (name : String) : String :=
  "LIKE LOWER(:" ++ name ++ ")"

theorem patternTest_infix_predicateText {clause : Clause} {name : String} (present : name ∈ clausePattern clause) :
    (patternTest name).toList <:+: (predicateText entityAlias clause).toList := by
  rw [clausePattern] at present
  split at present
  · rename_i folds
    rw [List.mem_singleton.mp present, predicateText_of_ignoresCase folds]
    exact ⟨("LOWER(" ++ (entityAlias ++ "." ++ clause.field.name) ++ ") ").toList, [], by simp [patternTest]⟩
  · cases present

theorem predicateText_infix_joinedText {entries : List (Clause × Option Connective)}
    {entry : Clause × Option Connective} (present : entry ∈ entries) :
    (predicateText entityAlias entry.1).toList <:+: (joinedText entityAlias entries).toList := by
  induction entries with
  | nil => cases present
  | cons first rest inductionHypothesis =>
    obtain ⟨clause, connective⟩ := first
    cases rest with
    | nil =>
      rw [List.mem_singleton.mp present]
      exact List.infix_rfl
    | cons next rest =>
      rw [joinedText, String.toList_append]
      cases List.mem_cons.mp present with
      | inl here =>
        rw [here, String.toList_append, List.append_assoc]
        exact (List.prefix_append _ _).isInfix
      | inr later => exact (inductionHypothesis later).trans (List.suffix_append _ _).isInfix

/-! ## Literals -/

/-- A text that is written in a string literal as it is. -/
def Verbatim (text : String) : Prop :=
  ∀ letter ∈ text.toList, StringLiteral.escape letter = [letter]

instance (text : String) : Decidable (Verbatim text) :=
  List.decidableBAll (fun letter => StringLiteral.escape letter = [letter]) text.toList

theorem escaped_of_verbatim {text : String} (verbatim : Verbatim text) : StringLiteral.escaped text = text := by
  have same : StringLiteral.escapeAll text.toList = text.toList.flatMap fun letter => [letter] :=
    List.flatMap_congr verbatim
  rw [StringLiteral.escaped, same, List.flatMap_singleton', String.ofList_toList]

theorem verbatim_append {left right : String} : Verbatim (left ++ right) ↔ Verbatim left ∧ Verbatim right := by
  rw [Verbatim, String.toList_append]
  exact List.forall_mem_append

theorem verbatim_of_plain {text : String} (plain : isPlainIdentifier text = true) : Verbatim text := by
  intro letter present
  have named := Java.isNameLetter_of_mem plain letter present
  rw [Java.StringLiteral.escape.eq_def]
  split
  · cases named
  · cases named
  · cases named
  · rfl

theorem verbatim_predicateText (aliasPlain : isPlainIdentifier entityAlias = true) {clause : Clause}
    (plain : isPlainIdentifier clause.field.name = true) : Verbatim (predicateText entityAlias clause) := by
  have aliasVerbatim := verbatim_of_plain aliasPlain
  have nameVerbatim := verbatim_of_plain plain
  have spellingVerbatim : Verbatim clause.field.spelling := verbatim_of_plain (isPlainIdentifierText_spelling plain)
  rw [predicateText]
  split <;> simp only [verbatim_append, aliasVerbatim, nameVerbatim, spellingVerbatim, true_and, and_true] <;> decide

theorem verbatim_joinedText (aliasPlain : isPlainIdentifier entityAlias = true)
    {entries : List (Clause × Option Connective)}
    (plain : ∀ entry ∈ entries, isPlainIdentifier entry.1.field.name = true) :
    Verbatim (joinedText entityAlias entries) := by
  induction entries with
  | nil => exact List.forall_mem_nil _
  | cons entry rest inductionHypothesis =>
    obtain ⟨entryPlain, restPlain⟩ := List.forall_mem_cons.mp plain
    obtain ⟨clause, connective⟩ := entry
    cases rest with
    | nil => exact verbatim_predicateText aliasPlain entryPlain
    | cons next rest =>
      have joining : Verbatim (connectiveText connective) := by
        rw [connectiveText.eq_def]
        split <;> decide
      rw [joinedText, verbatim_append, verbatim_append]
      exact ⟨⟨verbatim_predicateText aliasPlain entryPlain, joining⟩, inductionHypothesis restPlain⟩

/-! ## The queries of a phrase -/

/-- A query that says what a phrase says: its placeholders are the parameters of the phrase, its
patterns those of the phrase, and it needs no escapes in a literal. -/
structure Renders (phrase : Phrase) (query : String) : Prop where
  placeholders : Query.placeholders query = (parameters phrase.words).map (·.name)
  patterns : ∀ name, isPlainIdentifier name = true →
    (Text.contains (patternTest name) query = true ↔ name ∈ Method.patternFields phrase.words)
  literal : StringLiteral.escaped query = query

/-- A beginning of a query that mentions no parameter and tests no pattern. -/
structure IsLead (lead : String) : Prop where
  colonless : ':' ∉ lead.toList
  unbracketed : ∀ text, namesIn ['(', ':'] (lead.toList ++ text) = namesIn ['(', ':'] text
  verbatim : Verbatim lead

theorem isLead_selectLead (aliasPlain : isPlainIdentifier entityAlias = true) : IsLead (selectLead entityAlias) where
  colonless := by
    have apart : ':' ∉ entityAlias.toList := Java.not_mem_of_not_nameLetter aliasPlain rfl
    simp [selectLead, apart]
  unbracketed := by
    have apart : '(' ∉ entityAlias.toList := Java.not_mem_of_not_nameLetter aliasPlain rfl
    exact Text.namesIn_skip (by simp [selectLead, apart])
  verbatim := by
    rw [selectLead, verbatim_append, verbatim_append]
    exact ⟨⟨by decide, verbatim_of_plain aliasPlain⟩, by decide⟩

theorem isLead_countLead (aliasPlain : isPlainIdentifier entityAlias = true) : IsLead (countLead entityAlias) where
  colonless := by
    have apart : ':' ∉ entityAlias.toList := Java.not_mem_of_not_nameLetter aliasPlain rfl
    simp [countLead, apart]
  unbracketed := by
    simp [countLead, Text.namesIn_cons_of_ne, namesIn_bracket_append aliasPlain]
  verbatim := by
    rw [countLead, verbatim_append, verbatim_append]
    exact ⟨⟨by decide, verbatim_of_plain aliasPlain⟩, by decide⟩

theorem condition_suffix_queryTail (words : List Word) (entityName entityAlias : String) :
    (condition entityAlias words).toList <:+ (queryTail words entityName entityAlias).toList := by
  rw [queryTail, String.toList_append]
  refine List.IsSuffix.trans ?_ (List.suffix_append _ _)
  split
  · rename_i nothing
    simp [nothing]
  · rw [String.toList_append]
    exact List.suffix_append _ _

theorem plain_of_mem_clauses (plainPhrase : PlainPhrase phrase) :
    ∀ entry ∈ phrase.clauses, isPlainIdentifier entry.1.field.name = true :=
  fun entry present => plainPhrase.plain entry.1 (Phrase.mem_members_of_mem_clauses present)

theorem condition_phrase (plainPhrase : PlainPhrase phrase) (entityAlias : String) :
    condition entityAlias phrase.words = joinedText entityAlias phrase.clauses := by
  have spaceless : ∀ entry ∈ phrase.clauses, Spaceless entry.1 := fun entry present =>
    have plain := plain_of_mem_clauses plainPhrase entry present
    ⟨Java.not_mem_of_not_nameLetter plain rfl, Java.not_mem_of_not_nameLetter (isPlainIdentifierText_spelling plain) rfl⟩
  have all : scalarClauses phrase = phrase.clauses := List.filter_eq_self.mpr fun entry present => by
    rw [plainPhrase.scalar entry.1 (Phrase.mem_members_of_mem_clauses present), Bool.not_false]
  rw [condition_words entityAlias phrase spaceless, all]

section Queries

variable (plainPhrase : PlainPhrase phrase) (entityPlain : isPlainIdentifier entityName = true)
  (aliasPlain : isPlainIdentifier entityAlias = true)

include plainPhrase entityPlain aliasPlain

/-- After a lead the query goes on as the selecting one does. -/
theorem placeholders_lead {lead : String} (begins : IsLead lead) :
    placeholders (lead ++ queryTail phrase.words entityName entityAlias) =
      (parameters phrase.words).map (·.name) := by
  have colon : ":".toList = [':'] := rfl
  have tail : namesIn [':'] (queryTail phrase.words entityName entityAlias).toList =
      namesIn [':'] (condition entityAlias phrase.words).toList :=
    namesIn_queryTail rfl (by decide) entityPlain aliasPlain
  have selecting : namesIn [':'] (selectText phrase.words entityName entityAlias).toList =
      namesIn [':'] (condition entityAlias phrase.words).toList :=
    namesIn_selectText rfl (by decide) entityPlain aliasPlain
  rw [← placeholders_phrase plainPhrase entityPlain aliasPlain, placeholders, placeholders, Text.namesAfter,
    Text.namesAfter, colon, String.toList_append, Text.namesIn_skip begins.colonless, tail, selecting]

theorem namesIn_bracket_lead {lead : String} (begins : IsLead lead) :
    namesIn ['(', ':'] (lead ++ queryTail phrase.words entityName entityAlias).toList =
      (Method.patternFields phrase.words).map String.toList := by
  have tail : namesIn ['(', ':'] (queryTail phrase.words entityName entityAlias).toList =
      namesIn ['(', ':'] (condition entityAlias phrase.words).toList :=
    namesIn_queryTail rfl (by decide) entityPlain aliasPlain
  rw [String.toList_append, begins.unbracketed, tail, condition_phrase plainPhrase,
    namesIn_bracket_joinedText aliasPlain (plain_of_mem_clauses plainPhrase), patternFields_words]

theorem contains_patternTest_iff {lead : String} (begins : IsLead lead) {name : String}
    (plain : isPlainIdentifier name = true) :
    Text.contains (patternTest name) (lead ++ queryTail phrase.words entityName entityAlias) = true ↔
      name ∈ Method.patternFields phrase.words := by
  rw [Text.contains_iff]
  constructor
  · intro occurs
    -- the end of the pattern, from its bracket on, is a name that is looked for
    have ends : '(' :: ([':'] ++ (name.toList ++ [')'])) <:+: (patternTest name).toList :=
      ⟨"LIKE LOWER".toList, [], by simp [patternTest]⟩
    have named : name.toList ∈ namesIn ['(', ':'] (lead ++ queryTail phrase.words entityName entityAlias).toList :=
      Text.mem_namesIn_of_infix (by decide) rfl plain rfl (ends.trans occurs)
    rw [namesIn_bracket_lead plainPhrase entityPlain aliasPlain begins] at named
    obtain ⟨field, present, same⟩ := List.mem_map.mp named
    rwa [← String.toList_inj.mp same]
  · intro present
    rw [patternFields_words] at present
    obtain ⟨entry, listed, pattern⟩ := List.mem_flatMap.mp present
    have inCondition : (patternTest name).toList <:+: (condition entityAlias phrase.words).toList := by
      rw [condition_phrase plainPhrase]
      exact (patternTest_infix_predicateText pattern).trans (predicateText_infix_joinedText listed)
    have inTail := inCondition.trans (condition_suffix_queryTail phrase.words entityName entityAlias).isInfix
    rw [String.toList_append]
    exact inTail.trans (List.suffix_append _ _).isInfix

theorem verbatim_lead {lead : String} (begins : IsLead lead) :
    Verbatim (lead ++ queryTail phrase.words entityName entityAlias) := by
  have source : Verbatim (" " ++ entityName ++ " AS " ++ entityAlias) := by
    simp only [verbatim_append, verbatim_of_plain entityPlain, verbatim_of_plain aliasPlain, and_true]
    decide
  rw [verbatim_append, queryTail, verbatim_append, condition_phrase plainPhrase]
  refine ⟨begins.verbatim, source, ?_⟩
  split
  · decide
  · rw [verbatim_append]
    exact ⟨by decide, verbatim_joinedText aliasPlain (plain_of_mem_clauses plainPhrase)⟩

theorem renders_of_isLead {lead : String} (begins : IsLead lead) :
    Renders phrase (lead ++ queryTail phrase.words entityName entityAlias) where
  placeholders := placeholders_lead plainPhrase entityPlain aliasPlain begins
  patterns := fun _ plain => contains_patternTest_iff plainPhrase entityPlain aliasPlain begins plain
  literal := escaped_of_verbatim (verbatim_lead plainPhrase entityPlain aliasPlain begins)

theorem renders_selectText : Renders phrase (selectText phrase.words entityName entityAlias) := by
  rw [selectText_eq]
  exact renders_of_isLead plainPhrase entityPlain aliasPlain (isLead_selectLead aliasPlain)

theorem renders_countingForm :
    Renders phrase (countingForm entityAlias (selectText phrase.words entityName entityAlias)) := by
  rw [countingForm_eq]
  exact renders_of_isLead plainPhrase entityPlain aliasPlain (isLead_countLead aliasPlain)

end Queries

end QueryByName.Query
