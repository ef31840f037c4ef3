import QueryByName.Proofs.Finder.FieldsRead
import QueryByName.Proofs.Query.Placeholders

/-! # Placeholders and parameters

The text of a query and its parameters come from separate passes over the words.  Parameters look
at the word right after each field (`parameters_eq`), the text at all keywords of a section, at
what was said before and at what stands behind (`mentioned`).  Reading imposes no grammar, so the two
need not agree: of two fields in a row only the second one comes into the text
(`not_every_query_aligned`).

They agree wherever sections are *regular*, with nothing that takes a value after the first remark,
and *closed* if another section follows, so that no letters run on from a name into the next
column (`mentioned_eq_bound`).
-/

namespace QueryByName.Query

open QueryByName.Finder (Keyword Refusal Word)
open QueryByName.Java (ClassBody Field Parameter isPlainIdentifier)

/-! ## Parameters by sections -/

/-- The names of the parameters that are bound for a section. -/
def boundNames (part : Section) : List String :=
  (fieldParameters part.field part.keywords.head?).map (·.name)

theorem keyword_next (rest : List Word) : rest.head?.bind Word.keyword? = (leadingKeywords rest).head? := by
  cases rest with
  | nil => rfl
  | cons word rest => cases word <;> rfl

theorem parameters_eq (words : List Word) :
    parameters words = (sections words).flatMap fun part => fieldParameters part.field part.keywords.head? := by
  induction words with
  | nil => rfl
  | cons word rest inductionHypothesis =>
    cases word with
    | keyword _ => exact inductionHypothesis
    | field field => rw [parameters, sections, List.flatMap_cons, keyword_next, inductionHypothesis]

theorem names_parameters (words : List Word) :
    (parameters words).map (·.name) = (sections words).flatMap boundNames := by
  rw [parameters_eq, List.map_flatMap]
  rfl

/-! ## Regular sections -/

/-- Whether the text of a keyword ends without a name that letters could carry on. -/
def endsName (keyword : Keyword) : Bool :=
  keyword.isConnective || keyword.needsNoValue || keyword.ignoresCase

/-- A section that asks for the parameters bound for its field.  Membership says nothing, so it is
passed over. -/
structure Section.Regular (part : Section) : Prop where
  /-- After the first remark no keyword takes a value. -/
  speaksOnce : ∀ keyword ∈ (part.keywords.filter isRemark).tail,
    keyword.isConnective = true ∨ keyword.needsNoValue = true
  /-- A remark after a membership takes a single value. -/
  single : part.keywords.head? = some .member →
    ∀ keyword ∈ (part.keywords.filter isRemark).head?, keyword.needsNoValue = false ∧ keyword ≠ .between

def Section.Closed (part : Section) : Prop :=
  ∃ keyword ∈ part.keywords, endsName keyword = true

instance (part : Section) : Decidable part.Regular :=
  decidable_of_iff
    ((∀ keyword ∈ (part.keywords.filter isRemark).tail,
        keyword.isConnective = true ∨ keyword.needsNoValue = true) ∧
      (part.keywords.head? = some .member →
        ∀ keyword ∈ (part.keywords.filter isRemark).head?, keyword.needsNoValue = false ∧ keyword ≠ .between))
    ⟨fun checked => ⟨checked.1, checked.2⟩, fun regular => ⟨regular.speaksOnce, regular.single⟩⟩

instance (part : Section) : Decidable part.Closed :=
  inferInstanceAs (Decidable (∃ keyword ∈ part.keywords, endsName keyword = true))

variable {field : Field}

theorem mentions_filter (further : String) (said : Bool) (keywords : List Keyword) :
    mentions field further said (keywords.filter isRemark) = mentions field further said keywords := by
  induction keywords generalizing said with
  | nil => rfl
  | cons keyword rest inductionHypothesis =>
    by_cases speaks : isRemark keyword = true
    · rw [List.filter_cons_of_pos speaks, mentions, mentions, inductionHypothesis]
      simp
    · have silent : keyword = .member := by
        cases keyword with
        | member => rfl
        | _ => exact absurd rfl speaks
      rw [List.filter_cons_of_neg speaks, inductionHypothesis, silent, mentions]
      simp [mentionsOf, isRemark]

theorem mentions_quiet (further : String) {keywords : List Keyword}
    (quiet : ∀ keyword ∈ keywords, keyword.isConnective = true ∨ keyword.needsNoValue = true) :
    mentions field further true keywords = [] := by
  induction keywords with
  | nil => rfl
  | cons keyword rest inductionHypothesis =>
    obtain ⟨keywordQuiet, restQuiet⟩ := List.forall_mem_cons.mp quiet
    rw [mentions, Bool.true_or, inductionHypothesis restQuiet, List.append_nil]
    cases keyword with
    | and | or | isNull | isNotNull => rfl
    | _ => cases keywordQuiet <;> contradiction

theorem mentionsOf_eq_bound {keyword : Keyword} (speaks : isRemark keyword = true) :
    mentionsOf field false "" keyword = (fieldParameters field (some keyword)).map (·.name) := by
  cases keyword with
  | member => cases speaks
  | _ => simp [mentionsOf, fieldParameters]

theorem mentionsOf_of_endsName {keyword : Keyword} (ends : endsName keyword = true) (said : Bool)
    (further : String) : mentionsOf field said further keyword = mentionsOf field said "" keyword := by
  cases keyword with
  | and | or | isNull | isNotNull | like | ilike => rfl
  | _ => cases ends

theorem fieldParameters_single {keyword : Keyword} (single : keyword.needsNoValue = false ∧ keyword ≠ .between) :
    fieldParameters field (some keyword) = fieldParameters field none := by
  obtain ⟨valued, oneValue⟩ := single
  cases keyword with
  | isNull | isNotNull => cases valued
  | between => exact absurd rfl oneValue
  | _ => rfl

/-- A membership before the first remark changes nothing about what is bound. -/
theorem Section.Regular.bound_eq {part : Section} (regular : part.Regular) :
    fieldParameters part.field part.keywords.head? =
      fieldParameters part.field (part.keywords.filter isRemark).head? := by
  obtain ⟨field, keywords⟩ := part
  cases keywords with
  | nil => rfl
  | cons keyword rest =>
    cases keyword with
    | member =>
      have single := regular.single rfl
      show fieldParameters field none = _
      cases first : ((Keyword.member :: rest).filter isRemark).head? with
      | none => rfl
      | some remark => exact (fieldParameters_single (single remark first)).symm
    | _ => rfl

theorem Section.Regular.mentions_eq {part : Section} (regular : part.Regular) {further : String}
    (closed : further = "" ∨ part.Closed) (speaks : part.keywords.any isRemark = true) :
    mentions part.field further false part.keywords = boundNames part := by
  rw [← mentions_filter, boundNames, regular.bound_eq]
  have once := regular.speaksOnce
  have filtered : ∀ keyword ∈ part.keywords.filter isRemark, isRemark keyword = true :=
    fun _ present => (List.mem_filter.mp present).2
  cases remarks : part.keywords.filter isRemark with
  | nil =>
    obtain ⟨keyword, present, speaks⟩ := List.any_eq_true.mp speaks
    have kept := List.mem_filter.mpr ⟨present, speaks⟩
    rw [remarks] at kept
    cases kept
  | cons first rest =>
    rw [remarks] at once filtered
    rw [List.tail_cons] at once
    obtain ⟨firstSpeaks, restSpeak⟩ := List.forall_mem_cons.mp filtered
    rw [mentions, firstSpeaks, Bool.false_or, mentions_quiet further once, List.append_nil, List.head?_cons,
      ← mentionsOf_eq_bound firstSpeaks]
    cases rest with
    | cons next rest => rw [List.any_cons, restSpeak next List.mem_cons_self, Bool.true_or, if_pos rfl]
    | nil =>
      rw [List.any_nil, if_neg Bool.false_ne_true]
      cases closed with
      | inl nothing => rw [nothing]
      | inr closed =>
        -- the only remark is the one that ends the name
        obtain ⟨keyword, present, ends⟩ := closed
        have kept : keyword ∈ part.keywords.filter isRemark := by
          refine List.mem_filter.mpr ⟨present, ?_⟩
          cases keyword with
          | member => cases ends
          | _ => rfl
        rw [remarks] at kept
        rw [List.mem_singleton.mp kept] at ends
        exact mentionsOf_of_endsName ends false further

theorem Section.Closed.speaks {part : Section} (closed : part.Closed) : part.keywords.any isRemark = true := by
  obtain ⟨keyword, present, ends⟩ := closed
  refine List.any_eq_true.mpr ⟨keyword, present, ?_⟩
  cases keyword with
  | member => cases ends
  | _ => rfl

theorem innerMentions_eq_bound {part : Section} (scalar : part.field.isCollection = false)
    (regular : part.Regular) (closed : part.Closed) (further : String) :
    innerMentions further part = boundNames part := by
  have speaking : part.isSilent = false := by
    obtain ⟨keyword, present, _⟩ := closed
    rw [Section.isSilent, scalar, Bool.or_false, List.isEmpty_eq_false_iff]
    exact List.ne_nil_of_mem present
  rw [innerMentions, speaking, if_neg Bool.false_ne_true, regular.mentions_eq (.inr closed) closed.speaks]

theorem mentions_silent {further : String} {said : Bool} {keywords : List Keyword}
    (silent : keywords.any isRemark = false) : mentions field further said keywords = [] := by
  have nothing : keywords.filter isRemark = [] := by simpa using silent
  rw [← mentions_filter, nothing, mentions]

theorem lastMentions_eq_bound {part : Section} (scalar : part.field.isCollection = false)
    (regular : part.Regular) : lastMentions part = boundNames part := by
  rw [lastMentions, scalar, if_neg Bool.false_ne_true]
  cases speaks : part.keywords.any isRemark with
  | true => rw [if_pos rfl, List.append_nil, regular.mentions_eq (.inl rfl) speaks]
  | false =>
    -- without a remark the column is completed by an equality
    have nothing : part.keywords.filter isRemark = [] := by simpa using speaks
    rw [if_neg Bool.false_ne_true, mentions_silent speaks, boundNames, regular.bound_eq, nothing]
    rfl

/-- Regular sections mention what is bound for them. -/
theorem mentioned_eq_bound (entityAlias : String) {parts : List Section}
    (scalar : ∀ part ∈ parts, part.field.isCollection = false) (regular : ∀ part ∈ parts, part.Regular)
    (closed : ∀ part ∈ parts.dropLast, part.Closed) :
    mentioned entityAlias parts = parts.flatMap boundNames := by
  induction parts with
  | nil => rfl
  | cons part rest inductionHypothesis =>
    obtain ⟨partScalar, restScalar⟩ := List.forall_mem_cons.mp scalar
    obtain ⟨partRegular, restRegular⟩ := List.forall_mem_cons.mp regular
    cases rest with
    | nil => rw [mentioned, lastMentions_eq_bound partScalar partRegular, List.flatMap_singleton]
    | cons next rest =>
      rw [List.dropLast_cons_cons] at closed
      obtain ⟨partClosed, restClosed⟩ := List.forall_mem_cons.mp closed
      rw [mentioned, innerMentions_eq_bound partScalar partRegular partClosed,
        inductionHypothesis restScalar restRegular restClosed, ← List.flatMap_cons]

/-! ## Resolved finders -/

theorem field_mem_of_section {words : List Word} {part : Section} (present : part ∈ sections words) :
    .field part.field ∈ words := by
  induction words with
  | nil => cases present
  | cons word rest inductionHypothesis =>
    cases word with
    | keyword _ => exact List.mem_cons_of_mem _ (inductionHypothesis present)
    | field field =>
      rw [sections] at present
      cases List.mem_cons.mp present with
      | inl here =>
        rw [here]
        exact List.mem_cons_self
      | inr later => exact List.mem_cons_of_mem _ (inductionHypothesis later)

/-- A parameter has the type of a field, and its name or the name of an end of its range. -/
theorem exists_field_of_mem_parameters {words : List Word} {parameter : Parameter}
    (present : parameter ∈ parameters words) :
    ∃ field, .field field ∈ words ∧ parameter.type = field.type ∧
      (parameter.name = field.name ∨ parameter.name = "min" ++ field.spelling ∨
        parameter.name = "max" ++ field.spelling) := by
  rw [parameters_eq] at present
  obtain ⟨part, listed, bound⟩ := List.mem_flatMap.mp present
  refine ⟨part.field, field_mem_of_section listed, ?_⟩
  unfold fieldParameters at bound
  split at bound
  · cases bound
  · cases bound
  · cases List.mem_cons.mp bound with
    | inl least => exact ⟨congrArg Parameter.type least, .inr (.inl (congrArg Parameter.name least))⟩
    | inr last =>
      have greatest := List.mem_singleton.mp last
      exact ⟨congrArg Parameter.type greatest, .inr (.inr (congrArg Parameter.name greatest))⟩
  · have value := List.mem_singleton.mp bound
    exact ⟨congrArg Parameter.type value, .inl (congrArg Parameter.name value)⟩

theorem mem_lexicon_of_resolve {body : ClassBody} {finder plural entityName entityAlias : String}
    {resolution : Resolution} (resolved : resolve body finder plural entityName entityAlias = some (.ok resolution))
    {field : Field} (present : .field field ∈ resolution.words) : field ∈ body.lexicon := by
  obtain ⟨found, reading, rfl⟩ := exists_read_of_resolve resolved
  exact Finder.field_mem_of_words (Finder.words_of_read reading) field present

theorem mem_fields_of_resolve {body : ClassBody} {finder plural entityName entityAlias : String}
    {resolution : Resolution} (resolved : resolve body finder plural entityName entityAlias = some (.ok resolution))
    {field : Field} (present : .field field ∈ resolution.words) : field ∈ body.fields :=
  Finder.mem_fields_of_mem_lexicon (mem_lexicon_of_resolve resolved present)

/-- What a query mentions and what is bound for it, over fields that are columns. -/
theorem placeholders_of_resolve {body : ClassBody} (scalar : ∀ field ∈ body.fields, field.isCollection = false)
    (plain : ∀ field ∈ body.fields, isPlainIdentifier field.name = true) {finder plural entityName entityAlias : String}
    (entityPlain : isPlainIdentifier entityName = true) (aliasPlain : isPlainIdentifier entityAlias = true)
    {resolution : Resolution} (resolved : resolve body finder plural entityName entityAlias = some (.ok resolution)) :
    placeholders resolution.query = mentioned entityAlias (sections resolution.words) ∧
    resolution.parameterNames = (sections resolution.words).flatMap boundNames ∧
    resolution.parameterTypes.length = resolution.parameterNames.length ∧
    ((∀ part ∈ sections resolution.words, part.Regular) →
      (∀ part ∈ (sections resolution.words).dropLast, part.Closed) →
        placeholders resolution.query = resolution.parameterNames) := by
  have inBody : ∀ part ∈ sections resolution.words, part.field ∈ body.fields :=
    fun part present => mem_fields_of_resolve resolved (field_mem_of_section present)
  obtain ⟨found, _, rfl⟩ := exists_read_of_resolve resolved
  have text : placeholders (selectText found entityName entityAlias) = mentioned entityAlias (sections found) :=
    placeholders_selectText entityPlain aliasPlain fun part present => plain _ (inBody part present)
  have bound : (parameters found).map (·.name) = (sections found).flatMap boundNames := names_parameters found
  refine ⟨text, bound, ?_, ?_⟩
  · simp [Resolution.parameterTypes, Resolution.parameterNames]
  · intro regular closed
    have columns : ∀ part ∈ sections found, part.field.isCollection = false :=
      fun part present => scalar _ (inBody part present)
    calc placeholders (selectText found entityName entityAlias)
        = (sections found).flatMap boundNames :=
          text.trans (mentioned_eq_bound entityAlias columns regular closed)
      _ = (parameters found).map (·.name) := bound.symm

def nameColumn : Field :=
  ⟨"name", .named "java.lang.String", false, false, []⟩

def ageColumn : Field :=
  ⟨"age", .named "int", false, false, []⟩

def personBean : ClassBody :=
  .bean (.named "com.example.Person") [nameColumn, ageColumn]

theorem placeholders_of_resolve_person :
    ∃ resolution, resolve personBean "findPeopleByNameLikeAndAgeBetween" "People" "Person" "o" = some (.ok resolution) ∧
      (∀ part ∈ sections resolution.words, part.Regular) ∧
      (∀ part ∈ (sections resolution.words).dropLast, part.Closed) ∧
      placeholders resolution.query = resolution.parameterNames ∧
      resolution.parameterNames = ["name", "minAge", "maxAge"] := by
  let found : List Word := [.field nameColumn, .keyword .like, .keyword .and, .field ageColumn, .keyword .between]
  have reading : Finder.read personBean "findPeopleByNameLikeAndAgeBetween" "People" = some (.ok found) :=
    Finder.read_eq_ok_of_wordsWithin 6 (by decide) (by with_unfolding_all rfl)
  have resolved := resolve_of_read reading "Person" "o"
  have regular : ∀ part ∈ sections found, part.Regular := by decide
  have closed : ∀ part ∈ (sections found).dropLast, part.Closed := by decide
  obtain ⟨_, _, _, aligned⟩ := placeholders_of_resolve (by decide) (by decide) (by decide) (by decide) resolved
  exact ⟨_, resolved, regular, closed, aligned regular closed, by decide⟩

/-- Of two fields in a row only the second is in the text of the query, and both are bound. -/
theorem not_every_query_aligned : ¬ ∀ (body : ClassBody) (finder plural entityName entityAlias : String),
    (∀ field ∈ body.fields, field.isCollection = false) →
    (∀ field ∈ body.fields, isPlainIdentifier field.name = true) →
    isPlainIdentifier entityName = true → isPlainIdentifier entityAlias = true →
    ∀ resolution, resolve body finder plural entityName entityAlias = some (.ok resolution) →
      placeholders resolution.query = resolution.parameterNames ∧
        resolution.parameterTypes.length = resolution.parameterNames.length := by
  intro aligned
  let found : List Word := [.field nameColumn, .field ageColumn]
  have reading : Finder.read personBean "findPeopleByNameAge" "People" = some (.ok found) :=
    Finder.read_eq_ok_of_wordsWithin 3 (by decide) (by with_unfolding_all rfl)
  have inText : placeholders (selectText found "Person" "o") = ["age"] := by decide +kernel
  obtain ⟨same, _⟩ := aligned personBean _ _ _ _ (by decide) (by decide) (by decide) (by decide) _
    (resolve_of_read reading "Person" "o")
  have bound : placeholders (selectText found "Person" "o") = ["name", "age"] := same
  rw [inText] at bound
  exact absurd bound (by decide)

end QueryByName.Query
