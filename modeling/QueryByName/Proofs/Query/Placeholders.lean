import QueryByName.Proofs.Text.NamesAfter
import QueryByName.Query.Resolution

/-! # The placeholders of a query

`placeholders` reads the names after the colons off the text of a query.  What it finds is computed
here from the words of the finder, section by section (`mentioned`): every keyword mentions the
names of its remark, and a column about which nothing is said is completed by one more.

Nothing separates a remark from the part behind it unless a connective does, so the letters of the
next column may run on into the last name of a section.  The lemmas on remarks therefore speak of
the text that follows, and `nameLead` says what a name takes up of it.
-/

namespace QueryByName.Query

open QueryByName.Finder (Keyword Word)
open QueryByName.Java (Field isNameLetter isPlainIdentifier isPlainIdentifierText)
open QueryByName.Text (nameLead namesIn)

/-- The names after the colons of a query, from left to right. -/
def placeholders (query : String) : List String :=
  Text.namesAfter ":" query

theorem namesIn_colon_append {name : List Char} (plain : isPlainIdentifierText name = true) (text : List Char) :
    namesIn [':'] (':' :: (name ++ text)) = (name ++ nameLead text) :: namesIn [':'] text :=
  Text.namesIn_sign_append List.not_mem_nil rfl plain text

/-! ## Remarks -/

/-- Whether a keyword says anything about a column. -/
def isRemark : Keyword → Bool
  | .member => false
  | _ => true

/-- What one keyword adds after the column of a field. -/
def remark (field : Field) (said : Bool) (keyword : Keyword) : String :=
  match connective? keyword with
  | some connective => completion field said ++ connective
  | none => (predicate? field keyword).getD ""

theorem remarks_cons (field : Field) (said : Bool) (keyword : Keyword) (rest : List Keyword) :
    remarks field said (keyword :: rest) =
      (remark field said keyword ++ (remarks field (said || isRemark keyword) rest).1,
        (remarks field (said || isRemark keyword) rest).2) := by
  cases keyword <;> simp [remarks, remark, isRemark, connective?, predicate?]

/-- The names that one keyword mentions about a field, when `further` stands directly after it. -/
def mentionsOf (field : Field) (said : Bool) (further : String) : Keyword → List String
  | .and => if said then [] else [field.name]
  | .or => if said then [] else [field.name]
  | .member => []
  | .isNull => []
  | .isNotNull => []
  | .between => ["min" ++ field.spelling, "max" ++ field.spelling ++ further]
  | .like => [field.name]
  | .ilike => [field.name]
  | _ => [field.name ++ further]

/-- The names that a row of keywords mentions about a field.  Letters directly after the row carry
its last name on, unless a later keyword comes between. -/
def mentions (field : Field) (further : String) : Bool → List Keyword → List String
  | _, [] => []
  | said, keyword :: rest =>
    mentionsOf field said (if rest.any isRemark then "" else further) keyword ++
      mentions field further (said || isRemark keyword) rest

variable {field : Field}

theorem isPlainIdentifierText_spelling (plain : isPlainIdentifier field.name = true) :
    isPlainIdentifierText field.spelling.toList = true :=
  Java.isPlainIdentifier_capitalized plain

theorem namesIn_bound {letters : List Char} (plain : isPlainIdentifier field.name = true)
    (bound : isPlainIdentifierText letters = true) (text : List Char) :
    namesIn [':'] (':' :: (letters ++ (field.spelling.toList ++ text))) =
      (letters ++ field.spelling.toList ++ nameLead text) :: namesIn [':'] text := by
  have continues := Java.isNameLetter_of_mem (isPlainIdentifierText_spelling plain)
  have whole := Java.isPlainIdentifierText_append bound continues
  rw [← List.append_assoc, namesIn_colon_append whole]

theorem namesIn_remark (plain : isPlainIdentifier field.name = true) (said : Bool) (keyword : Keyword)
    (text : List Char) :
    namesIn [':'] ((remark field said keyword).toList ++ text) =
      (mentionsOf field said (String.ofList (nameLead text)) keyword).map String.toList ++
        namesIn [':'] text := by
  have named (text : List Char) : namesIn [':'] (':' :: (field.name.toList ++ text)) =
      (field.name.toList ++ nameLead text) :: namesIn [':'] text := namesIn_colon_append plain text
  have least (text : List Char) : namesIn [':'] (':' :: 'm' :: 'i' :: 'n' :: (field.spelling.toList ++ text)) =
      ('m' :: 'i' :: 'n' :: field.spelling.toList ++ nameLead text) :: namesIn [':'] text :=
    namesIn_bound plain (show isPlainIdentifierText "min".toList = true from rfl) text
  have greatest (text : List Char) : namesIn [':'] (':' :: 'm' :: 'a' :: 'x' :: (field.spelling.toList ++ text)) =
      ('m' :: 'a' :: 'x' :: field.spelling.toList ++ nameLead text) :: namesIn [':'] text :=
    namesIn_bound plain (show isPlainIdentifierText "max".toList = true from rfl) text
  have space (text : List Char) : nameLead (' ' :: text) = [] := Text.nameLead_cons_of_apart rfl text
  have closing (text : List Char) : nameLead (')' :: text) = [] := Text.nameLead_cons_of_apart rfl text
  cases keyword <;> cases said <;>
    simp [remark, connective?, predicate?, completion, equality, placeholder, mentionsOf,
      Text.namesIn_cons_of_ne, named, least, greatest, space, closing]

theorem nameLead_remark (keyword : Keyword) (said : Bool) (text : List Char) :
    nameLead ((remark field said keyword).toList ++ text) = if isRemark keyword then [] else nameLead text := by
  have space (text : List Char) : nameLead (' ' :: text) = [] := Text.nameLead_cons_of_apart rfl text
  cases keyword <;> cases said <;>
    simp [remark, connective?, predicate?, completion, equality, placeholder, isRemark, space]

theorem nameLead_remarks (said : Bool) (keywords : List Keyword) (text : List Char) :
    nameLead ((remarks field said keywords).1.toList ++ text) =
      if keywords.any isRemark then [] else nameLead text := by
  induction keywords generalizing said with
  | nil => rfl
  | cons keyword rest inductionHypothesis =>
    rw [remarks_cons, String.toList_append, List.append_assoc, nameLead_remark, inductionHypothesis, List.any_cons]
    by_cases speaks : isRemark keyword = true <;> simp [speaks]

theorem namesIn_remarks (plain : isPlainIdentifier field.name = true) (said : Bool) (keywords : List Keyword)
    (text : List Char) :
    namesIn [':'] ((remarks field said keywords).1.toList ++ text) =
      (mentions field (String.ofList (nameLead text)) said keywords).map String.toList ++
        namesIn [':'] text := by
  induction keywords generalizing said with
  | nil => rfl
  | cons keyword rest inductionHypothesis =>
    -- what stands directly after a remark is the next one, or the text if no other remark follows
    have further : String.ofList (nameLead ((remarks field (said || isRemark keyword) rest).1.toList ++ text)) =
        if rest.any isRemark then "" else String.ofList (nameLead text) := by
      rw [nameLead_remarks]
      split <;> rfl
    rw [remarks_cons, String.toList_append, List.append_assoc, namesIn_remark plain, inductionHypothesis, further,
      mentions, List.map_append, List.append_assoc]

theorem remarks_said (said : Bool) (keywords : List Keyword) :
    (remarks field said keywords).2 = (said || keywords.any isRemark) := by
  induction keywords generalizing said with
  | nil => simp [remarks]
  | cons keyword rest inductionHypothesis =>
    rw [remarks_cons, inductionHypothesis, List.any_cons, Bool.or_assoc]

/-! ## Sections -/

/-- Whether a section that another one follows leaves no trace. -/
def Section.isSilent (part : Section) : Bool :=
  part.keywords.isEmpty || part.field.isCollection

/-- The column that a section begins with. -/
def Section.opening (part : Section) (entityAlias : String) : String :=
  match part.keywords with
  | [] => entityAlias ++ "." ++ part.field.name
  | keyword :: _ => column entityAlias part.field keyword

/-- The name letters that the column of a section begins with. -/
def Section.openingName (part : Section) (entityAlias : String) : String :=
  if part.keywords.head?.any (·.ignoresCase) then "LOWER" else entityAlias

theorem innerPart_eq (entityAlias : String) (part : Section) :
    innerPart entityAlias part =
      if part.isSilent then "" else part.opening entityAlias ++ (remarks part.field false part.keywords).1 := by
  obtain ⟨field, keywords⟩ := part
  cases keywords with
  | nil => rfl
  | cons keyword rest => simp [innerPart, Section.isSilent, Section.opening]

theorem lastPart_eq (entityAlias : String) (part : Section) :
    lastPart entityAlias part =
      if part.field.isCollection then ""
      else part.opening entityAlias ++ ((remarks part.field false part.keywords).1 ++
        completion part.field (remarks part.field false part.keywords).2) := by
  obtain ⟨field, keywords⟩ := part
  cases keywords with
  | nil => simp [lastPart, Section.opening, remarks, completion, String.append_assoc]
  | cons keyword rest => simp [lastPart, Section.opening, String.append_assoc]

section Columns

variable {entityAlias : String} {part : Section}

theorem nameLead_opening (aliasPlain : isPlainIdentifier entityAlias = true) (text : List Char) :
    nameLead ((part.opening entityAlias).toList ++ text) = (part.openingName entityAlias).toList := by
  have dot (text : List Char) : nameLead (entityAlias.toList ++ '.' :: text) = entityAlias.toList := by
    rw [Text.nameLead_append_of_plain aliasPlain, Text.nameLead_cons_of_apart rfl, List.append_nil]
  have folded (text : List Char) : nameLead ("LOWER".toList ++ '(' :: text) = "LOWER".toList := by
    rw [Text.nameLead_append_of_plain rfl, Text.nameLead_cons_of_apart rfl, List.append_nil]
  obtain ⟨field, keywords⟩ := part
  cases keywords with
  | nil => simpa [Section.opening, Section.openingName] using dot _
  | cons keyword rest =>
    by_cases folds : keyword.ignoresCase = true
    · simpa [Section.opening, Section.openingName, column, folds] using folded _
    · simpa [Section.opening, Section.openingName, column, folds] using dot _

theorem namesIn_opening (aliasPlain : isPlainIdentifier entityAlias = true)
    (plain : isPlainIdentifier part.field.name = true) (text : List Char) :
    namesIn [':'] ((part.opening entityAlias).toList ++ text) = namesIn [':'] text := by
  have aliasApart := Java.not_mem_of_not_nameLetter aliasPlain (show isNameLetter ':' = false from rfl)
  have nameApart := Java.not_mem_of_not_nameLetter plain (show isNameLetter ':' = false from rfl)
  apply Text.namesIn_skip
  rw [Section.opening]
  split
  · simp [aliasApart, nameApart]
  · rw [column]
    split <;> simp [aliasApart, nameApart]

end Columns

/-! ## The condition -/

/-- The name letters that the parts of sections begin with. -/
def openingName (entityAlias : String) : List Section → String
  | [] => ""
  | [part] => if part.field.isCollection then "" else part.openingName entityAlias
  | part :: next :: rest =>
    if part.isSilent then openingName entityAlias (next :: rest) else part.openingName entityAlias

/-- The names that a section mentions when another part with the given opening stands behind it. -/
def innerMentions (further : String) (part : Section) : List String :=
  if part.isSilent then [] else mentions part.field further false part.keywords

def lastMentions (part : Section) : List String :=
  if part.field.isCollection then []
  else
    mentions part.field "" false part.keywords ++
      if part.keywords.any isRemark then [] else [part.field.name]

/-- The names that a row of sections mentions, from left to right. -/
def mentioned (entityAlias : String) : List Section → List String
  | [] => []
  | [part] => lastMentions part
  | part :: next :: rest =>
    innerMentions (openingName entityAlias (next :: rest)) part ++ mentioned entityAlias (next :: rest)

theorem namesIn_completion (plain : isPlainIdentifier field.name = true) (said : Bool) :
    namesIn [':'] (completion field said).toList = if said then [] else [field.name.toList] := by
  have named : namesIn [':'] (':' :: field.name.toList) = [field.name.toList] := by
    have whole := namesIn_colon_append plain []
    simpa [nameLead, namesIn] using whole
  cases said with
  | true => rfl
  | false => simpa [completion, equality, placeholder, Text.namesIn_cons_of_ne] using named

theorem nameLead_completion (said : Bool) : nameLead (completion field said).toList = [] := by
  cases said with
  | true => rfl
  | false =>
    simp only [completion, equality, placeholder, Bool.false_eq_true, if_false, String.toList_append]
    exact Text.nameLead_cons_of_apart rfl _

theorem namesIn_lastPart {entityAlias : String} (aliasPlain : isPlainIdentifier entityAlias = true)
    {part : Section} (plain : isPlainIdentifier part.field.name = true) :
    namesIn [':'] (lastPart entityAlias part).toList = (lastMentions part).map String.toList := by
  rw [lastPart_eq, lastMentions]
  split
  · rfl
  · rw [String.toList_append, namesIn_opening aliasPlain plain, String.toList_append, namesIn_remarks plain,
      nameLead_completion, namesIn_completion plain, remarks_said, Bool.false_or, List.map_append]
    split <;> rfl

theorem nameLead_partsText {entityAlias : String} (aliasPlain : isPlainIdentifier entityAlias = true)
    (parts : List Section) :
    nameLead (partsText entityAlias parts).toList = (openingName entityAlias parts).toList := by
  induction parts with
  | nil => rfl
  | cons part rest inductionHypothesis =>
    cases rest with
    | nil =>
      rw [partsText, lastPart_eq, openingName]
      split
      · rfl
      · rw [String.toList_append, nameLead_opening aliasPlain]
    | cons next rest =>
      rw [partsText, innerPart_eq, openingName]
      split
      · rw [String.empty_append, inductionHypothesis]
      · rw [String.append_assoc, String.toList_append, nameLead_opening aliasPlain]

theorem namesIn_partsText {entityAlias : String} (aliasPlain : isPlainIdentifier entityAlias = true)
    {parts : List Section} (plain : ∀ part ∈ parts, isPlainIdentifier part.field.name = true) :
    namesIn [':'] (partsText entityAlias parts).toList = (mentioned entityAlias parts).map String.toList := by
  induction parts with
  | nil => rfl
  | cons part rest inductionHypothesis =>
    obtain ⟨partPlain, restPlain⟩ := List.forall_mem_cons.mp plain
    cases rest with
    | nil => exact namesIn_lastPart aliasPlain partPlain
    | cons next rest =>
      rw [partsText, innerPart_eq, mentioned, innerMentions, List.map_append, ← inductionHypothesis restPlain]
      split
      · rw [String.empty_append]
        rfl
      · -- the name at the end of this part goes on into the opening of the next one
        rw [String.append_assoc, String.toList_append, namesIn_opening aliasPlain partPlain, String.toList_append,
          namesIn_remarks partPlain, nameLead_partsText aliasPlain, String.ofList_toList]

theorem namesIn_condition {entityAlias : String} (aliasPlain : isPlainIdentifier entityAlias = true)
    {words : List Word} (plain : ∀ part ∈ sections words, isPlainIdentifier part.field.name = true) :
    namesIn [':'] (condition entityAlias words).toList =
      (mentioned entityAlias (sections words)).map String.toList := by
  rw [condition, withoutTrailingConnective, Text.namesIn_withoutTail (by decide) rfl,
    Text.namesIn_withoutTail (by decide) rfl, namesIn_partsText aliasPlain plain]

/-! ## The query -/

/-- What follows the beginning of a query, in its selecting form as in its counting form. -/
def queryTail (words : List Word) (entityName entityAlias : String) : String :=
  " " ++ entityName ++ " AS " ++ entityAlias ++
    if condition entityAlias words = "" then "" else " WHERE " ++ condition entityAlias words

theorem selectText_eq (words : List Word) (entityName entityAlias : String) :
    selectText words entityName entityAlias =
      selectLead entityAlias ++ queryTail words entityName entityAlias := by
  simp only [selectText, queryTail, String.append_assoc]

theorem countingForm_eq (words : List Word) (entityName entityAlias : String) :
    countingForm entityAlias (selectText words entityName entityAlias) =
      countLead entityAlias ++ queryTail words entityName entityAlias := by
  rw [countingForm, Text.afterLead?_eq_some_iff.mpr (selectText_eq words entityName entityAlias)]

section Names

variable {first : Char} {sign : List Char} {entityName entityAlias : String} {words : List Word}

theorem not_mem_of_spaced (apart : isNameLetter first = false) (space : first ≠ ' ') {text : String}
    (spaced : (text.toList.all fun letter => isNameLetter letter || letter == ' ') = true) : first ∉ text.toList := by
  intro present
  have checked := List.all_eq_true.mp spaced first present
  rw [apart, Bool.false_or] at checked
  exact space (beq_iff_eq.mp checked)

theorem namesIn_queryTail (apart : isNameLetter first = false) (space : first ≠ ' ')
    (entityPlain : isPlainIdentifier entityName = true) (aliasPlain : isPlainIdentifier entityAlias = true) :
    namesIn (first :: sign) (queryTail words entityName entityAlias).toList =
      namesIn (first :: sign) (condition entityAlias words).toList := by
  have entityApart : first ∉ entityName.toList := Java.not_mem_of_not_nameLetter entityPlain apart
  have aliasApart : first ∉ entityAlias.toList := Java.not_mem_of_not_nameLetter aliasPlain apart
  have asApart : first ∉ " AS ".toList := not_mem_of_spaced apart space (by decide)
  have whereApart : first ∉ " WHERE ".toList := not_mem_of_spaced apart space (by decide)
  have sourceApart : first ∉ (" " ++ entityName ++ " AS " ++ entityAlias).toList := by
    simp only [String.toList_append, List.mem_append, not_or]
    exact ⟨⟨⟨List.not_mem_cons_of_ne_of_not_mem space List.not_mem_nil, entityApart⟩, asApart⟩, aliasApart⟩
  rw [queryTail, String.toList_append, Text.namesIn_skip sourceApart]
  split
  · rename_i nothing
    rw [nothing]
  · rw [String.toList_append, Text.namesIn_skip whereApart]

theorem namesIn_selectText (apart : isNameLetter first = false) (space : first ≠ ' ')
    (entityPlain : isPlainIdentifier entityName = true) (aliasPlain : isPlainIdentifier entityAlias = true) :
    namesIn (first :: sign) (selectText words entityName entityAlias).toList =
      namesIn (first :: sign) (condition entityAlias words).toList := by
  have aliasApart : first ∉ entityAlias.toList := Java.not_mem_of_not_nameLetter aliasPlain apart
  have selectApart : first ∉ "SELECT ".toList := not_mem_of_spaced apart space (by decide)
  have fromApart : first ∉ " FROM".toList := not_mem_of_spaced apart space (by decide)
  have leadApart : first ∉ (selectLead entityAlias).toList := by
    simp only [selectLead, String.toList_append, List.mem_append, not_or]
    exact ⟨⟨selectApart, aliasApart⟩, fromApart⟩
  rw [selectText_eq, String.toList_append, Text.namesIn_skip leadApart,
    namesIn_queryTail apart space entityPlain aliasPlain]

theorem placeholders_selectText (entityPlain : isPlainIdentifier entityName = true)
    (aliasPlain : isPlainIdentifier entityAlias = true)
    (plain : ∀ part ∈ sections words, isPlainIdentifier part.field.name = true) :
    placeholders (selectText words entityName entityAlias) = mentioned entityAlias (sections words) := by
  have colon : ":".toList = [':'] := rfl
  have letters : namesIn [':'] (selectText words entityName entityAlias).toList =
      namesIn [':'] (condition entityAlias words).toList :=
    namesIn_selectText rfl (by decide) entityPlain aliasPlain
  rw [placeholders, Text.namesAfter, colon, letters, namesIn_condition aliasPlain plain, List.map_map]
  simp [Function.comp_def]

end Names

end QueryByName.Query
