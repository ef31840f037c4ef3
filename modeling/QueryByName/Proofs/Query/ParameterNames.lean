import Mathlib.Data.List.Nodup
import QueryByName.Proofs.Finder.NameList
import QueryByName.Proofs.Query.Exclusions
import QueryByName.Proofs.Query.PhraseQuery

/-! # Names of parameters

A field is bound under its own name, and a range under the names of its two ends.  The names are
given without regard to each other, so two parameters of a listed finder may have one name
(`not_every_signature_distinct`).

The guard of the growth keeps the fields of a phrase apart.  So where a listed finder is read as the
phrase it was spelled from, the only way for two names to be the same is that a field is named like
an end of the range of another one, and that field is bound by its value
(`parameterNames_of_listing`).
-/

namespace QueryByName.Query

open QueryByName.Finder
open QueryByName.Java (ClassBody Entity Field isPlainIdentifier)

/-! ## Sections that share a name -/

namespace Section

def BindsRange (part : Section) : Prop :=
  part.keywords.head? = some .between

/-- Whether a section binds a single value, under the name of its field. -/
def BindsValue (part : Section) : Prop :=
  ∀ keyword ∈ part.keywords.head?, keyword.needsNoValue = false ∧ keyword ≠ .between

/-- Whether the value of one section is named like an end of the range of another. -/
structure NamesEnd (range value : Section) : Prop where
  bindsRange : range.BindsRange
  bindsValue : value.BindsValue
  named : value.field.name = "min" ++ range.field.spelling ∨ value.field.name = "max" ++ range.field.spelling

/-- The ways in which two sections bind parameters of one name. -/
inductive Clash (left right : Section) : Prop where
  | values (leftValue : left.BindsValue) (rightValue : right.BindsValue) (same : left.field.name = right.field.name)
  | ranges (leftRange : left.BindsRange) (rightRange : right.BindsRange)
      (same : left.field.spelling = right.field.spelling)
  | endBefore (named : left.NamesEnd right)
  | endBehind (named : right.NamesEnd left)

theorem not_bindsValue_of_bindsRange {part : Section} (range : part.BindsRange) : ¬ part.BindsValue :=
  fun value => (value .between range).2 rfl

end Section

theorem boundNames_of_bindsRange {part : Section} (range : part.BindsRange) :
    boundNames part = ["min" ++ part.field.spelling, "max" ++ part.field.spelling] := by
  rw [boundNames, range]
  rfl

theorem boundNames_of_bindsValue {part : Section} (value : part.BindsValue) : boundNames part = [part.field.name] := by
  rw [boundNames]
  cases head : part.keywords.head? with
  | none => rfl
  | some keyword =>
    rw [fieldParameters_single (value keyword head)]
    rfl

theorem binds_cases (part : Section) : part.BindsRange ∨ part.BindsValue ∨ boundNames part = [] := by
  rw [Section.BindsRange, Section.BindsValue, boundNames]
  cases part.keywords.head? with
  | none => exact .inr (.inl (by simp))
  | some keyword =>
    cases keyword with
    | between => exact .inl rfl
    | isNull | isNotNull => exact .inr (.inr rfl)
    | _ =>
      refine .inr (.inl ?_)
      rintro _ ⟨rfl⟩
      exact ⟨rfl, by decide⟩

theorem mem_boundNames_iff {part : Section} {name : String} : name ∈ boundNames part ↔
    (part.BindsValue ∧ name = part.field.name) ∨
      (part.BindsRange ∧ (name = "min" ++ part.field.spelling ∨ name = "max" ++ part.field.spelling)) := by
  obtain range | value | nothing := binds_cases part
  · simp [boundNames_of_bindsRange range, range, Section.not_bindsValue_of_bindsRange range]
  · have notRange : ¬ part.BindsRange := fun range => Section.not_bindsValue_of_bindsRange range value
    simp [boundNames_of_bindsValue value, value, notRange]
  · constructor
    · intro bound
      rw [nothing] at bound
      cases bound
    · rintro (⟨value, rfl⟩ | ⟨range, _⟩)
      · simp [boundNames_of_bindsValue value] at nothing
      · simp [boundNames_of_bindsRange range] at nothing

theorem least_ne_greatest (range other : String) : "min" ++ range ≠ "max" ++ other := by
  intro same
  have letters := congrArg String.toList same
  rw [String.toList_append, String.toList_append] at letters
  cases letters

theorem nodup_boundNames (part : Section) : (boundNames part).Nodup := by
  obtain range | value | nothing := binds_cases part
  · simp [boundNames_of_bindsRange range]
  · simp [boundNames_of_bindsValue value]
  · simp [nothing]

theorem disjoint_boundNames_iff {left right : Section} :
    (boundNames left).Disjoint (boundNames right) ↔ ¬ left.Clash right := by
  rw [List.disjoint_left]
  constructor
  · intro apart clash
    cases clash with
    | values leftValue rightValue same =>
      exact apart (mem_boundNames_iff.mpr (.inl ⟨leftValue, rfl⟩)) (mem_boundNames_iff.mpr (.inl ⟨rightValue, same⟩))
    | ranges leftRange rightRange same =>
      exact apart (mem_boundNames_iff.mpr (.inr ⟨leftRange, .inl rfl⟩))
        (mem_boundNames_iff.mpr (.inr ⟨rightRange, .inl (congrArg _ same)⟩))
    | endBefore named =>
      exact apart (mem_boundNames_iff.mpr (.inr ⟨named.bindsRange, named.named⟩))
        (mem_boundNames_iff.mpr (.inl ⟨named.bindsValue, rfl⟩))
    | endBehind named =>
      exact apart (mem_boundNames_iff.mpr (.inl ⟨named.bindsValue, rfl⟩))
        (mem_boundNames_iff.mpr (.inr ⟨named.bindsRange, named.named⟩))
  · intro clear name inLeft inRight
    apply clear
    obtain ⟨leftValue, rfl⟩ | ⟨leftRange, leftEnd⟩ := mem_boundNames_iff.mp inLeft <;>
      obtain ⟨rightValue, same⟩ | ⟨rightRange, rightEnd⟩ := mem_boundNames_iff.mp inRight
    · exact .values leftValue rightValue same
    · exact .endBehind ⟨rightRange, leftValue, rightEnd⟩
    · subst same
      exact .endBefore ⟨leftRange, rightValue, leftEnd⟩
    · refine .ranges leftRange rightRange ?_
      obtain rfl | rfl := leftEnd <;> obtain same | same := rightEnd
      · exact (String.append_right_inj _).mp same
      · exact absurd same (least_ne_greatest _ _)
      · exact absurd same.symm (least_ne_greatest _ _)
      · exact (String.append_right_inj _).mp same

theorem nodup_boundNames_iff {parts : List Section} :
    (parts.flatMap boundNames).Nodup ↔ parts.Pairwise fun left right => ¬ left.Clash right := by
  rw [List.nodup_flatMap, and_iff_right fun part _ => nodup_boundNames part]
  exact List.Pairwise.iff_of_mem fun _ _ => disjoint_boundNames_iff

/-- Sections about fields that are spelled differently clash only over the end of a range. -/
theorem pairwise_clash_iff_namesEnd {parts : List Section} (apart : (parts.map (·.field.spelling)).Nodup) :
    (parts.Pairwise fun left right => ¬ left.Clash right) ↔
      ∀ range ∈ parts, ∀ value ∈ parts, ¬ range.NamesEnd value := by
  constructor
  · intro clear
    apply List.Pairwise.forall_of_forall_of_flip
    · exact fun part _ named => Section.not_bindsValue_of_bindsRange named.bindsRange named.bindsValue
    · exact clear.imp fun notClash named => notClash (.endBefore named)
    · exact clear.imp fun notClash named => notClash (.endBehind named)
  · intro unnamed
    have spelledApart : parts.Pairwise fun left right => left.field.spelling ≠ right.field.spelling :=
      List.pairwise_map.mp apart
    refine spelledApart.imp_of_mem fun leftListed rightListed different clash => ?_
    cases clash with
    | values _ _ same => exact different (congrArg Text.capitalized same)
    | ranges _ _ same => exact different same
    | endBefore named => exact unnamed _ leftListed _ rightListed named
    | endBehind named => exact unnamed _ rightListed _ leftListed named

/-! ## Phrases that are read back -/

theorem eq_of_sameWords {fields : List Field} (distinct : (fields.map Field.spelling).Nodup)
    {words found : List Word} (same : SameWords words found)
    (inFields : ∀ field, .field field ∈ words → field ∈ fields)
    (foundInFields : ∀ field, .field field ∈ found → field ∈ fields) : words = found := by
  induction same with
  | nil => rfl
  | @cons word read words found sameWord _ inductionHypothesis =>
    have rest := inductionHypothesis (fun field present => inFields field (List.mem_cons_of_mem _ present))
      (fun field present => foundInFields field (List.mem_cons_of_mem _ present))
    rw [rest]
    congr 1
    cases word with
    | keyword reserved =>
      cases read with
      | keyword other => exact congrArg Word.keyword (beq_iff_eq.mp sameWord)
      | field _ => cases sameWord
    | field named =>
      cases read with
      | keyword _ => cases sameWord
      | field other =>
        -- both are fields of the class, where a spelling belongs to one of them
        have spelled : named.spelling = other.spelling := beq_iff_eq.mp sameWord
        have equal := List.inj_on_of_nodup_map distinct (inFields named List.mem_cons_self)
          (foundInFields other List.mem_cons_self) spelled
        rw [equal]

theorem words_eq_of_spelledFrom {body : ClassBody} (named : ∀ field ∈ body.mentionable, field.name ≠ "")
    (distinct : (body.fields.map Field.spelling).Nodup) {exclusions : List String} {plural name : String}
    {count : Nat} {phrase : Phrase} (spelled : SpelledFrom body exclusions (lead plural) name count phrase)
    (clear : ¬ Shadowed body.lexicon phrase.words) {entityName entityAlias : String} {resolution : Resolution}
    (resolved : resolve body name plural entityName entityAlias = some (.ok resolution)) :
    resolution.words = phrase.words := by
  obtain ⟨found, reading, rfl⟩ := exists_read_of_resolve resolved
  have same := (outcome_of_spelledFrom named spelled).sameWords reading clear
  refine (eq_of_sameWords distinct same ?_ fun field present => mem_fields_of_resolve resolved present).symm
  intro field present
  obtain ⟨clause, member, rfl⟩ := Phrase.exists_member_of_field_mem present
  exact ClassBody.mem_fields_of_mem_settable (spelled.offered clause member).settable

theorem sections_spelledApart {phrase : Phrase} (apart : (phrase.members.map (·.field.spelling)).Nodup) :
    ((sections phrase.words).map (·.field.spelling)).Nodup := by
  rw [sections_phrase, List.map_map]
  rw [← phrase.map_fst_clauses, List.map_map] at apart
  exact apart

theorem exists_member_of_section {phrase : Phrase} {part : Section} (present : part ∈ sections phrase.words) :
    ∃ clause ∈ phrase.members, part.field = clause.field ∧ (part.BindsRange → clause.keyword? = some .between) := by
  rw [sections_phrase] at present
  obtain ⟨⟨clause, connective⟩, listed, rfl⟩ := List.mem_map.mp present
  refine ⟨clause, Phrase.mem_members_of_mem_clauses listed, rfl, ?_⟩
  rw [Section.BindsRange, sectionOf]
  cases clause.keyword? with
  | some keyword => exact id
  | none =>
    -- what follows the field at once is a connective, and no connective asks for a range
    intro range
    cases connective with
    | none => cases range
    | some joining =>
      have ranges : joining.val = .between := Option.some.inj range
      have connects := joining.property
      rw [ranges] at connects
      cases connects

/-! ## Listed finders -/

/-- Whether no candidate is named like an end of the range of a candidate. -/
def EndsUnnamed (fields : List Field) : Prop :=
  ∀ range ∈ fields, range.type.isQuantity = true → ∀ value ∈ fields,
    value.name ≠ "min" ++ range.spelling ∧ value.name ≠ "max" ++ range.spelling

theorem not_namesEnd_of_endsUnnamed {body : ClassBody} {exclusions : List String} {start name : String} {count : Nat}
    {phrase : Phrase} (spelled : SpelledFrom body exclusions start name count phrase)
    (unnamed : EndsUnnamed (candidates body exclusions)) :
    ∀ range ∈ sections phrase.words, ∀ value ∈ sections phrase.words, ¬ range.NamesEnd value := by
  intro range rangeListed value valueListed named
  obtain ⟨ranging, rangingMember, rangeField, asksRange⟩ := exists_member_of_section rangeListed
  obtain ⟨valued, valuedMember, valueField, _⟩ := exists_member_of_section valueListed
  have rangingOffered := spelled.offered ranging rangingMember
  have quantity := isQuantity_of_between (rangingOffered.suited .between (asksRange named.bindsRange))
  obtain ⟨notLeast, notGreatest⟩ := unnamed _ rangingOffered.mem_candidates quantity _
    (spelled.offered valued valuedMember).mem_candidates
  have named := named.named
  rw [rangeField, valueField] at named
  cases named with
  | inl least => exact notLeast least
  | inr greatest => exact notGreatest greatest

/-- When the parameters of a listed finder have different names. -/
theorem parameterNames_of_listing (entity : Entity) (preferences : Preferences)
    (named : ∀ field ∈ entity.body.mentionable, field.name ≠ "")
    (distinct : (entity.body.fields.map Field.spelling).Nodup) :
    ∃ items, listing entity preferences = some items ∧
    ∀ item ∈ items, ∀ resolution, item.outcome = .ok resolution →
      (resolution.parameterNames.Nodup ↔
        (sections resolution.words).Pairwise fun left right => ¬ left.Clash right) ∧
      ∃ phrase, ∃ count ≤ preferences.depth,
        SpelledFrom entity.body (allExclusions entity preferences) (lead entity.plural) item.name count phrase ∧
        (phrase.members.map (·.field.spelling)).Nodup ∧
        (¬ Shadowed entity.body.lexicon phrase.words →
          resolution.words = phrase.words ∧
          (resolution.parameterNames.Nodup ↔
            ∀ range ∈ sections phrase.words, ∀ value ∈ sections phrase.words, ¬ range.NamesEnd value)) ∧
        (ClashFree (entity.body.lexicon.map Field.spelling) →
          EndsUnnamed (candidates entity.body (allExclusions entity preferences)) →
            resolution.parameterNames.Nodup) := by
  obtain ⟨items, returned⟩ := exists_listing named preferences
  refine ⟨items, returned, ?_⟩
  intro item listed resolution resolvesTo
  obtain ⟨built, resolved⟩ := (mem_listing_iff returned).mp listed
  rw [resolvesTo] at resolved
  have general : resolution.parameterNames.Nodup ↔
      (sections resolution.words).Pairwise fun left right => ¬ left.Clash right := by
    obtain ⟨found, _, rfl⟩ := exists_read_of_resolve resolved
    show ((parameters found).map (·.name)).Nodup ↔ _
    rw [names_parameters, nodup_boundNames_iff]
    rfl
  obtain ⟨count, bound, derived⟩ := mem_names_iff.mp built
  obtain ⟨phrase, spelled, apart⟩ := derived.exists_fresh_phrase
  have readBack (clear : ¬ Shadowed entity.body.lexicon phrase.words) : resolution.words = phrase.words ∧
      (resolution.parameterNames.Nodup ↔
        ∀ range ∈ sections phrase.words, ∀ value ∈ sections phrase.words, ¬ range.NamesEnd value) := by
    have same := words_eq_of_spelledFrom named distinct spelled clear resolved
    refine ⟨same, general.trans ?_⟩
    rw [same]
    exact pairwise_clash_iff_namesEnd (sections_spelledApart apart)
  refine ⟨general, phrase, count, bound, spelled, apart, readBack, fun clashFree unnamed => ?_⟩
  exact (readBack (spelled.not_shadowed clashFree)).2.mpr (not_namesEnd_of_endsUnnamed spelled unnamed)

/-! ## A field named like the end of a range -/

def rangedEntity : Entity where
  annotations := []
  body := .bean (.named "com.example.Person")
    [⟨"age", .named "int", false, false, []⟩, ⟨"minAge", .named "com.example.Money", false, false, []⟩]

def rangedWords : List Word :=
  [.field ⟨"age", .named "int", false, false, []⟩, .keyword .between, .keyword .and,
    .field ⟨"minAge", .named "com.example.Money", false, false, []⟩]

theorem named_rangedEntity : ∀ field ∈ rangedEntity.body.mentionable, field.name ≠ "" := by decide

theorem rangedWords_listed {items : List ListedFinder}
    (returned : listing rangedEntity { depth := 2 } = some items) :
    ⟨"findPeopleByAgeBetweenAndMinAge", .ok (Resolution.ofWords rangedWords "Person" "o")⟩ ∈ items := by
  have shorter : Built (lead "People") (candidates rangedEntity.body []) 1 "findPeopleByAgeBetween" :=
    mem_firstLayer_iff.mp (by decide +kernel)
  have built : "findPeopleByAgeBetweenAndMinAge" ∈ names rangedEntity.body "People" 2 [] :=
    mem_names_iff.mpr ⟨2, Nat.le_refl 2, shorter.extend (by decide +kernel)⟩
  have reading : read rangedEntity.body "findPeopleByAgeBetweenAndMinAge" rangedEntity.plural =
      some (.ok rangedWords) :=
    read_eq_ok_of_wordsWithin 5 (by decide) (by with_unfolding_all rfl)
  exact (mem_listing_iff returned).mpr ⟨built, resolve_of_read reading "Person" "o"⟩

theorem parameterNames_rangedWords :
    (Resolution.ofWords rangedWords "Person" "o").parameterNames = ["minAge", "maxAge", "minAge"] := by
  with_unfolding_all rfl

theorem parameterNames_of_listing_ranged : (∀ field ∈ rangedEntity.body.mentionable, field.name ≠ "") ∧
    (rangedEntity.body.fields.map Field.spelling).Nodup ∧
    ∃ items, listing rangedEntity { depth := 2 } = some items ∧
      ∃ item ∈ items, ∃ resolution, item.outcome = .ok resolution ∧
        resolution.parameterNames = ["minAge", "maxAge", "minAge"] ∧
        (resolution.parameterNames.Nodup ↔
          (sections resolution.words).Pairwise fun left right => ¬ left.Clash right) := by
  have distinct : (rangedEntity.body.fields.map Field.spelling).Nodup := by decide +kernel
  obtain ⟨items, returned, told⟩ :=
    parameterNames_of_listing rangedEntity { depth := 2 } named_rangedEntity distinct
  have listed := rangedWords_listed returned
  obtain ⟨general, _⟩ := told _ listed _ rfl
  exact ⟨named_rangedEntity, distinct, items, returned, _, listed, _, rfl, parameterNames_rangedWords, general⟩

/-- Distinct fields of distinct spellings do not keep the parameters of listed finders apart. -/
theorem not_every_signature_distinct : ¬ ∀ (entity : Entity) (preferences : Preferences) (items : List ListedFinder),
    listing entity preferences = some items →
    (entity.body.fields.map (·.name)).Nodup →
    (∀ field ∈ entity.body.fields, isPlainIdentifier field.name = true) →
    (entity.body.fields.map Field.spelling).Nodup →
    ∀ item ∈ items, ∀ resolution, item.outcome = .ok resolution → resolution.parameterNames.Nodup := by
  intro distinct
  obtain ⟨items, returned⟩ := exists_listing named_rangedEntity { depth := 2 }
  have apart := distinct rangedEntity { depth := 2 } items returned (by decide) (by decide) (by decide +kernel) _
    (rangedWords_listed returned) _ rfl
  rw [parameterNames_rangedWords] at apart
  exact absurd apart (by decide)

end QueryByName.Query
