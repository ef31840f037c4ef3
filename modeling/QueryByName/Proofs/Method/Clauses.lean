import QueryByName.Proofs.Method.BoundQuery
import QueryByName.Proofs.Method.QueryLiteral
import QueryByName.Proofs.Query.Connectives

/-! # Clauses in the methods of finders

A clause about a column reaches the method of a finder through its query, a clause about a collection
through the parameters: for each parameter of a collection type, tests are appended to the query when
the method runs.  The two parts know nothing of each other (`clauses_of_finder`).

So a clause about a collection is tested only if a parameter is bound for it, under the name of that
parameter, and its tests are joined with `AND` whatever connective stood before it.  A null test of a
collection leaves nothing at all, a range of one is tested against fields that do not exist, and two
finders that differ in a connective may have the same method (`not_every_clause_reaches`).
-/

namespace QueryByName.Method

open QueryByName.Finder (Clause Connective Phrase Preferences Word)
open QueryByName.Java (Entity Field Parameter)
open QueryByName.Query (Joins Resolution Spaceless clauseParameters predicateOpening predicateText)

/-! ## Parameters for collections -/

theorem type_of_mem_clauseParameters {clause : Clause} {parameter : Parameter}
    (bound : parameter ∈ clauseParameters clause) : parameter.type = clause.field.type := by
  rw [clauseParameters] at bound
  split at bound
  · cases bound
  · cases bound
  · cases List.mem_cons.mp bound with
    | inl least => rw [least]
    | inr last => rw [List.mem_singleton.mp last]
  · rw [List.mem_singleton.mp bound]

theorem filter_clauseParameters (clause : Clause) :
    (clauseParameters clause).filter (·.type.isCollection) =
      if clause.field.isCollection then clauseParameters clause else [] := by
  split
  · rename_i collection
    refine List.filter_eq_self.mpr fun parameter bound => ?_
    rw [type_of_mem_clauseParameters bound]
    exact collection
  · rename_i column
    refine List.filter_eq_nil_iff.mpr fun parameter bound => ?_
    rw [type_of_mem_clauseParameters bound]
    exact column

theorem parameters_members (phrase : Phrase) :
    Query.parameters phrase.words = phrase.members.flatMap clauseParameters := by
  rw [Query.parameters_words, ← phrase.map_fst_clauses, List.flatMap_map]

theorem patternFields_members (phrase : Phrase) :
    patternFields phrase.words = phrase.members.flatMap Query.clausePattern := by
  rw [Query.patternFields_words, ← phrase.map_fst_clauses, List.flatMap_map]

/-- The parameters for collections are those of the clauses about collections. -/
theorem collections_phrase {frame : Frame} {phrase : Phrase}
    (bound : frame.resolution.parameters = Query.parameters phrase.words) :
    frame.collections = (phrase.members.filter (·.field.isCollection)).flatMap clauseParameters := by
  rw [Frame.collections, bound, parameters_members, List.filter_flatMap]
  generalize phrase.members = members
  induction members with
  | nil => rfl
  | cons clause members inductionHypothesis =>
    rw [List.flatMap_cons, inductionHypothesis, filter_clauseParameters, List.filter_cons]
    split
    · rw [List.flatMap_cons]
    · rw [List.nil_append]

/-! ## Tests that are appended -/

/-- The parameter and the alias that a step appends tests for. -/
def Statement.membershipTest? : Statement → Option (Parameter × String)
  | .appendTests parameter entityAlias => some (parameter, entityAlias)
  | _ => none

theorem eq_appendTests {step : Statement} {parameter : Parameter} {entityAlias : String}
    (tests : step.membershipTest? = some (parameter, entityAlias)) : step = .appendTests parameter entityAlias := by
  cases step with
  | appendTests => cases tests; rfl
  | _ => cases tests

theorem membershipTests_silent {given : List Parameter} {step : Parameter → Statement}
    (silent : ∀ parameter, (step parameter).membershipTest? = none) :
    (given.map step).filterMap Statement.membershipTest? = [] := by
  rw [List.filterMap_map, List.filterMap_eq_nil_iff]
  exact fun parameter _ => silent parameter

theorem membershipTests_creationSteps (query : TypedQuery) (entityAlias : String) (collections : List Parameter) :
    (creationSteps query entityAlias collections).filterMap Statement.membershipTest? =
      collections.map fun parameter => (parameter, entityAlias) := by
  have tests (given : List Parameter) : (given.flatMap fun parameter =>
      [Statement.declareCount parameter.name, .appendTests parameter entityAlias]).filterMap
        Statement.membershipTest? = given.map fun parameter => (parameter, entityAlias) := by
    rw [List.filterMap_flatMap, List.map_eq_flatMap]
    rfl
  cases collections with
  | nil => rfl
  | cons first others =>
    rw [creationSteps, List.filterMap_append, List.filterMap_append, tests]
    · exact List.append_nil _
    · exact List.cons_ne_nil first others

theorem membershipTests_bindingSteps (values collections : List Parameter) :
    (bindingSteps values collections).filterMap Statement.membershipTest? = [] := by
  rw [bindingSteps, List.filterMap_append, membershipTests_silent fun _ => rfl, List.filterMap_flatMap,
    List.nil_append, List.flatMap_eq_nil_iff]
  exact fun _ _ => rfl

theorem membershipTests_statements (frame : Frame) (query : TypedQuery) {last : Statement}
    (untested : last.membershipTest? = none) :
    (frame.statements query last).filterMap Statement.membershipTest? =
      frame.collections.map fun parameter => (parameter, frame.entityAlias) := by
  have ends : [last].filterMap Statement.membershipTest? = [] := by
    rw [List.filterMap_cons_none untested, List.filterMap_nil]
  rw [Frame.statements, List.filterMap_append, List.filterMap_append, List.filterMap_append, List.filterMap_append,
    List.filterMap_append, argumentChecks, membershipTests_silent fun _ => rfl, patternSteps,
    membershipTests_silent fun _ => rfl, membershipTests_creationSteps, membershipTests_bindingSteps, ends]
  simp [Statement.membershipTest?]

/-- Besides the text of the query, the words of a finder decide about its parameters and patterns. -/
theorem statements_congr {frame other : Frame} (sameType : frame.entityType = other.entityType)
    (sameAlias : frame.entityAlias = other.entityAlias)
    (sameParameters : frame.resolution.parameters = other.resolution.parameters)
    (samePatterns : patternFields frame.resolution.words = patternFields other.resolution.words)
    (query : TypedQuery) (last : Statement) : frame.statements query last = other.statements query last := by
  simp only [Frame.statements, patternSteps, Frame.entityName, Frame.collections, Frame.values, sameType, sameAlias,
    sameParameters, samePatterns]

/-! ## Methods -/

/-- The method that returns the query of a resolved finder. -/
def finderMethod (entity : Entity) (preferences : Preferences) (finder : String) (resolution : Resolution) :
    QueryMethod :=
  Frame.selectMethod ⟨entity.type, preferences.entityAlias, resolution⟩ finder

/-- Whether a clause binds the value of its field, and no range of it. -/
def TakesValue (clause : Clause) : Prop :=
  ∀ keyword ∈ clause.keyword?, keyword.needsNoValue = false ∧ keyword ≠ .between

theorem clauseParameters_of_takesValue {clause : Clause} (value : TakesValue clause) :
    clauseParameters clause = [⟨clause.field.name, clause.field.type⟩] := by
  rw [clauseParameters]
  split
  · rename_i isNull
    exact absurd (value _ isNull).1 (by decide)
  · rename_i isNotNull
    exact absurd (value _ isNotNull).1 (by decide)
  · rename_i between
    exact absurd rfl (value _ between).2
  · rfl

/-- What the clauses of a phrase leave in the method of a finder and in its query. -/
structure StatesClauses (phrase : Phrase) (entityAlias query : String) (method : QueryMethod) : Prop where
  /-- The query stands in the method. -/
  written : ∃ line ∈ method.body, (quoted query).toList <:+: line.toList
  /-- A clause about a column states its predicate, at least up to the last value. -/
  opened : ∀ clause ∈ phrase.members, clause.field.isCollection = false →
    (predicateOpening entityAlias clause).toList <:+: query.toList
  stated : ∀ clause ∈ phrase.members, clause.field.isCollection = false → Spaceless clause →
    (predicateText entityAlias clause).toList <:+: query.toList
  /-- Tests are appended for the parameters of the clauses about collections, and for no others. -/
  tested : ∃ steps : List Statement, method.body = steps.flatMap Statement.lines ∧
    steps.filterMap Statement.membershipTest? =
      ((phrase.members.filter (·.field.isCollection)).flatMap clauseParameters).map fun parameter =>
        (parameter, entityAlias)
  /-- A clause about the value of a collection is tested under its own name. -/
  looped : ∀ clause ∈ phrase.members, clause.field.isCollection = true → TakesValue clause →
    ⟨clause.field.name, clause.field.type⟩ ∈ method.parameters ∧
      (Statement.appendTests ⟨clause.field.name, clause.field.type⟩ entityAlias).lines <:+: method.body

theorem lines_infix {steps : List Statement} {step : Statement} (present : step ∈ steps) :
    step.lines <:+: steps.flatMap Statement.lines := by
  rw [List.flatMap_def]
  exact List.infix_of_mem_flatten (List.mem_map_of_mem present)

theorem statesClauses_frame {frame : Frame} {phrase : Phrase}
    (resolved : frame.resolution = Resolution.ofWords phrase.words frame.entityName frame.entityAlias) (name : String) :
    StatesClauses phrase frame.entityAlias frame.resolution.query (frame.selectMethod name) := by
  have query : frame.resolution.query = Query.selectText phrase.words frame.entityName frame.entityAlias := by
    rw [resolved, Resolution.ofWords]
  have bound : frame.resolution.parameters = Query.parameters phrase.words := by rw [resolved, Resolution.ofWords]
  have tests : (frame.statements frame.selectQuery .returnQuery).filterMap Statement.membershipTest? =
      ((phrase.members.filter (·.field.isCollection)).flatMap clauseParameters).map fun parameter =>
        (parameter, frame.entityAlias) := by
    rw [membershipTests_statements frame _ rfl, collections_phrase bound]
  refine ⟨?_, ?_, ?_, ⟨_, rfl, tests⟩, ?_⟩
  · obtain ⟨before, after, lines⟩ := exists_bodyLines frame frame.entityType frame.entityName .returnQuery
    refine ⟨creationFront frame.selectQuery.type frame.collections ++ quoted frame.resolution.query ++
      creationBack frame.entityName frame.collections, ?_, ?_⟩
    · show _ ∈ (frame.statements frame.selectQuery .returnQuery).flatMap Statement.lines
      rw [Frame.selectQuery, lines]
      exact List.mem_append_right _ List.mem_cons_self
    · rw [String.toList_append, String.toList_append]
      exact ⟨_, _, rfl⟩
  · intro clause member column
    rw [query]
    exact Query.infix_selectText (Query.sealed_predicateOpening _ _).ne_empty
      (Query.predicateOpening_infix_condition _ member column) _
  · intro clause member column spaceless
    rw [query]
    exact Query.infix_selectText (Query.predicateText_ne_empty _ _)
      (Query.predicateText_infix_condition _ member column spaceless) _
  · intro clause member collection value
    have listed : ⟨clause.field.name, clause.field.type⟩ ∈
        (phrase.members.filter (·.field.isCollection)).flatMap clauseParameters := by
      refine List.mem_flatMap.mpr ⟨clause, List.mem_filter.mpr ⟨member, collection⟩, ?_⟩
      rw [clauseParameters_of_takesValue value]
      exact List.mem_singleton_self _
    constructor
    · show _ ∈ frame.resolution.parameters
      rw [← collections_phrase bound, Frame.collections] at listed
      exact List.mem_of_mem_filter listed
    · -- only `appendTests` counts as a test, so the step found for the parameter is that one
      have tested := List.mem_map_of_mem (f := fun parameter => (parameter, frame.entityAlias)) listed
      rw [← tests] at tested
      obtain ⟨step, present, appends⟩ := List.mem_filterMap.mp tested
      rw [← eq_appendTests appends]
      exact lines_infix present

/-! ## Methods that differ in a connective -/

theorem body_eq_iff {frame other : Frame} (sameType : frame.entityType = other.entityType)
    (sameAlias : frame.entityAlias = other.entityAlias)
    (sameParameters : frame.resolution.parameters = other.resolution.parameters)
    (samePatterns : patternFields frame.resolution.words = patternFields other.resolution.words)
    (name otherName : String) : (frame.selectMethod name).body = (other.selectMethod otherName).body ↔
      quoted frame.resolution.query = quoted other.resolution.query := by
  obtain ⟨before, after, lines⟩ := exists_bodyLines frame frame.entityType frame.entityName .returnQuery
  have body : (frame.selectMethod name).body = before ++
      (creationFront frame.selectQuery.type frame.collections ++ quoted frame.resolution.query ++
        creationBack frame.entityName frame.collections) :: after := lines frame.resolution.query
  have otherBody : (other.selectMethod otherName).body = before ++
      (creationFront frame.selectQuery.type frame.collections ++ quoted other.resolution.query ++
        creationBack frame.entityName frame.collections) :: after := by
    have query : other.selectQuery = ⟨other.resolution.query, frame.entityType, frame.entityName⟩ := by
      rw [Frame.selectQuery, Frame.entityName, Frame.entityName, sameType]
    show (other.statements other.selectQuery .returnQuery).flatMap Statement.lines = _
    rw [query, ← statements_congr sameType sameAlias sameParameters samePatterns]
    exact lines other.resolution.query
  rw [body, otherBody]
  constructor
  · intro same
    obtain ⟨sameLine, _⟩ := List.cons.inj (List.append_cancel_left same)
    exact (String.append_right_inj _).mp ((String.append_left_inj _).mp sameLine)
  · intro same
    rw [same]

theorem quoted_connective_ne {connective other : Connective} (different : connective ≠ other) (front back : String) :
    quoted (front ++ Query.connectiveText (some connective) ++ back) ≠
      quoted (front ++ Query.connectiveText (some other) ++ back) := by
  intro same
  have escapes := (String.append_right_inj _).mp ((String.append_left_inj _).mp same)
  rw [escaped_append, escaped_append, escaped_append, escaped_append] at escapes
  have connectives := (String.append_right_inj _).mp ((String.append_left_inj _).mp escapes)
  obtain ⟨joining, connects⟩ := connective
  obtain ⟨otherJoining, otherConnects⟩ := other
  -- no connective needs an escape
  cases joining <;> cases connects <;> cases otherJoining <;> cases otherConnects
  · exact different rfl
  · exact absurd connectives (by decide)
  · exact absurd connectives (by decide)
  · exact different rfl

/-- A finder whose name is read as a phrase. -/
structure ResolvesAs (entity : Entity) (preferences : Preferences) (finder : String) (phrase : Phrase)
    (resolution : Resolution) : Prop where
  resolved : Query.resolve entity.body finder entity.plural entity.simpleName preferences.entityAlias =
    some (.ok resolution)
  grammatical : resolution.words = phrase.words

section Finders

variable {entity : Entity} {preferences : Preferences} {finder otherFinder : String} {phrase otherPhrase : Phrase}
  {resolution otherResolution : Resolution}

theorem ResolvesAs.eq_ofWords (resolves : ResolvesAs entity preferences finder phrase resolution) :
    resolution = Resolution.ofWords phrase.words entity.simpleName preferences.entityAlias := by
  rw [← resolves.grammatical]
  exact Query.eq_ofWords_of_resolve resolves.resolved

theorem ResolvesAs.query_eq (resolves : ResolvesAs entity preferences finder phrase resolution) :
    resolution.query = Query.selectText phrase.words entity.simpleName preferences.entityAlias := by
  rw [resolves.eq_ofWords, Resolution.ofWords]

/-- Finders that differ in connectives only have the same method exactly if they have the same query. -/
theorem body_eq_iff_of_members (resolves : ResolvesAs entity preferences finder phrase resolution)
    (otherResolves : ResolvesAs entity preferences otherFinder otherPhrase otherResolution)
    (same : phrase.members = otherPhrase.members) :
    (finderMethod entity preferences finder resolution).body =
        (finderMethod entity preferences otherFinder otherResolution).body ↔
      quoted (Query.selectText phrase.words entity.simpleName preferences.entityAlias) =
        quoted (Query.selectText otherPhrase.words entity.simpleName preferences.entityAlias) := by
  have parameters : resolution.parameters = otherResolution.parameters := by
    rw [resolves.eq_ofWords, otherResolves.eq_ofWords, Resolution.ofWords, Resolution.ofWords, parameters_members,
      parameters_members, same]
  have patterns : patternFields resolution.words = patternFields otherResolution.words := by
    rw [resolves.grammatical, otherResolves.grammatical, patternFields_members, patternFields_members, same]
  have bodies := @body_eq_iff ⟨entity.type, preferences.entityAlias, resolution⟩
    ⟨entity.type, preferences.entityAlias, otherResolution⟩ rfl rfl parameters patterns finder otherFinder
  rwa [resolves.query_eq, otherResolves.query_eq] at bodies

variable {earlier later : List (Clause × Option Connective)} {clause : Clause} {connective otherConnective : Connective}

theorem members_eq_of_split (split : phrase.clauses = earlier ++ (clause, some connective) :: later)
    (otherSplit : otherPhrase.clauses = earlier ++ (clause, some otherConnective) :: later) :
    phrase.members = otherPhrase.members := by
  rw [← phrase.map_fst_clauses, ← otherPhrase.map_fst_clauses, split, otherSplit, List.map_append, List.map_append]
  rfl

theorem body_ne_of_joined (resolves : ResolvesAs entity preferences finder phrase resolution)
    (otherResolves : ResolvesAs entity preferences otherFinder otherPhrase otherResolution)
    (split : phrase.clauses = earlier ++ (clause, some connective) :: later)
    (otherSplit : otherPhrase.clauses = earlier ++ (clause, some otherConnective) :: later)
    (different : connective ≠ otherConnective) (joins : Joins clause later) :
    (finderMethod entity preferences finder resolution).body ≠
      (finderMethod entity preferences otherFinder otherResolution).body := by
  rw [Ne, body_eq_iff_of_members resolves otherResolves (members_eq_of_split split otherSplit)]
  obtain ⟨front, back, query⟩ :=
    Query.selectText_of_joined entity.simpleName preferences.entityAlias earlier joins
  rw [query phrase connective split, query otherPhrase otherConnective otherSplit]
  exact quoted_connective_ne different front back

theorem body_eq_of_unjoined (resolves : ResolvesAs entity preferences finder phrase resolution)
    (otherResolves : ResolvesAs entity preferences otherFinder otherPhrase otherResolution)
    (split : phrase.clauses = earlier ++ (clause, some connective) :: later)
    (otherSplit : otherPhrase.clauses = earlier ++ (clause, some otherConnective) :: later)
    (unjoined : ¬ Joins clause later) (spaceless : Spaceless clause) :
    (finderMethod entity preferences finder resolution).body =
      (finderMethod entity preferences otherFinder otherResolution).body := by
  rw [body_eq_iff_of_members resolves otherResolves (members_eq_of_split split otherSplit), Query.selectText,
    Query.selectText, Query.condition_of_unjoined preferences.entityAlias unjoined spaceless split otherSplit]

end Finders

/-- What becomes of the clauses of a finder and of the connectives between them. -/
theorem clauses_of_finder (entity : Entity) (preferences : Preferences) {finder : String}
    (requested : finder ∈ entity.requestedFinders) {phrase : Phrase} {resolution : Resolution}
    (resolves : ResolvesAs entity preferences finder phrase resolution) :
    (∃ own, Plan.ofFinder entity preferences finder = some own ∧
      finderMethod entity preferences finder resolution ∈ own.methods ∧
      Introduces entity preferences own.methods) ∧
    StatesClauses phrase preferences.entityAlias resolution.query
      (finderMethod entity preferences finder resolution) ∧
    ∀ (otherFinder : String) (otherPhrase : Phrase) (otherResolution : Resolution),
      ResolvesAs entity preferences otherFinder otherPhrase otherResolution →
      ∀ (earlier later : List (Clause × Option Connective)) (clause : Clause) (connective otherConnective : Connective),
        phrase.clauses = earlier ++ (clause, some connective) :: later →
        otherPhrase.clauses = earlier ++ (clause, some otherConnective) :: later →
        connective ≠ otherConnective →
          (Joins clause later → (finderMethod entity preferences finder resolution).body ≠
            (finderMethod entity preferences otherFinder otherResolution).body) ∧
          (¬ Joins clause later → Spaceless clause → (finderMethod entity preferences finder resolution).body =
            (finderMethod entity preferences otherFinder otherResolution).body) := by
  refine ⟨?_, ?_, ?_⟩
  · have planned := ofFinder_of_resolve resolves.resolved
    exact ⟨_, planned, List.mem_cons_self, introduces_of_planned requested planned⟩
  · exact @statesClauses_frame ⟨entity.type, preferences.entityAlias, resolution⟩ phrase resolves.eq_ofWords finder
  · intro otherFinder otherPhrase otherResolution otherResolves earlier later clause connective otherConnective
      split otherSplit different
    exact ⟨body_ne_of_joined resolves otherResolves split otherSplit different,
      body_eq_of_unjoined resolves otherResolves split otherSplit⟩

/-! ## Clauses about a collection -/

def nameField : Field :=
  ⟨"name", .named "java.lang.String", false, false, []⟩

def tagsField : Field :=
  ⟨"tags", ⟨"java.util.Set", [.named "com.example.Tag"]⟩, false, false, []⟩

def taggedEntity : Entity where
  annotations :=
    [.written "@RooJpaActiveRecord" [("finders",
      .list [.text "findPeopleByNameAndTags", .text "findPeopleByNameOrTags", .text "findPeopleByTagsIsNull"])]]
  body := .bean (.named "com.example.Person") [nameField, tagsField]

def joinedPhrase (connective : Connective) : Phrase where
  first := ⟨nameField, none⟩
  further := [(connective, ⟨tagsField, none⟩)]
  trailing := none

theorem clauses_joinedPhrase (connective : Connective) : (joinedPhrase connective).clauses =
    [] ++ (⟨nameField, none⟩, some connective) :: [(⟨tagsField, none⟩, none)] := rfl

theorem not_joins_tags : ¬ Joins ⟨nameField, none⟩ [(⟨tagsField, none⟩, none)] := by
  rintro ⟨_, entry, present, column⟩
  rw [List.mem_singleton.mp present] at column
  exact absurd column (by decide)

theorem resolves_nameAndTags : ResolvesAs taggedEntity {} "findPeopleByNameAndTags" (joinedPhrase ⟨.and, rfl⟩)
    (Resolution.ofWords (joinedPhrase ⟨.and, rfl⟩).words "Person" "o") where
  resolved := Query.resolve_of_read
    (Finder.read_eq_ok_of_wordsWithin 4 (by decide) (by with_unfolding_all rfl)) "Person" "o"
  grammatical := rfl

theorem resolves_nameOrTags : ResolvesAs taggedEntity {} "findPeopleByNameOrTags" (joinedPhrase ⟨.or, rfl⟩)
    (Resolution.ofWords (joinedPhrase ⟨.or, rfl⟩).words "Person" "o") where
  resolved := Query.resolve_of_read
    (Finder.read_eq_ok_of_wordsWithin 4 (by decide) (by with_unfolding_all rfl)) "Person" "o"
  grammatical := rfl

theorem resolves_tagsIsNull : ResolvesAs taggedEntity {} "findPeopleByTagsIsNull"
    ⟨⟨tagsField, some ⟨.isNull, rfl⟩⟩, [], none⟩
    (Resolution.ofWords [.field tagsField, .keyword .isNull] "Person" "o") where
  resolved := Query.resolve_of_read
    (Finder.read_eq_ok_of_wordsWithin 3 (by decide) (by with_unfolding_all rfl)) "Person" "o"
  grammatical := rfl

theorem clauses_of_finder_tagged : "findPeopleByNameAndTags" ∈ taggedEntity.requestedFinders ∧
    ∃ resolution otherResolution : Resolution,
      ResolvesAs taggedEntity {} "findPeopleByNameAndTags" (joinedPhrase ⟨.and, rfl⟩) resolution ∧
      ResolvesAs taggedEntity {} "findPeopleByNameOrTags" (joinedPhrase ⟨.or, rfl⟩) otherResolution ∧
      StatesClauses (joinedPhrase ⟨.and, rfl⟩) "o" resolution.query
        (finderMethod taggedEntity {} "findPeopleByNameAndTags" resolution) ∧
      (finderMethod taggedEntity {} "findPeopleByNameAndTags" resolution).body =
        (finderMethod taggedEntity {} "findPeopleByNameOrTags" otherResolution).body := by
  have requested : "findPeopleByNameAndTags" ∈ taggedEntity.requestedFinders := by decide
  obtain ⟨_, states, connectives⟩ := clauses_of_finder taggedEntity {} requested resolves_nameAndTags
  obtain ⟨_, same⟩ := connectives _ _ _ resolves_nameOrTags _ _ _ _ _ (clauses_joinedPhrase _)
    (clauses_joinedPhrase _) (by decide)
  exact ⟨requested, _, _, resolves_nameAndTags, resolves_nameOrTags, states, same not_joins_tags (by decide)⟩

/-- A clause about a collection may leave no test, and a connective before one no trace. -/
theorem not_every_clause_reaches :
    (¬ ∀ (entity : Entity) (preferences : Preferences) (finder : String) (phrase : Phrase) (resolution : Resolution),
      finder ∈ entity.requestedFinders → phrase.trailing = none →
      ResolvesAs entity preferences finder phrase resolution →
      ∀ clause ∈ phrase.members, clause.field.isCollection = true →
        ∃ parameter ∈ (finderMethod entity preferences finder resolution).parameters,
          parameter.name = clause.field.name ∧
          (Statement.appendTests parameter preferences.entityAlias).lines <:+:
            (finderMethod entity preferences finder resolution).body) ∧
    (¬ ∀ (entity : Entity) (preferences : Preferences) (finder otherFinder : String) (phrase otherPhrase : Phrase)
      (resolution otherResolution : Resolution) (earlier later : List (Clause × Option Connective)) (clause : Clause)
      (connective otherConnective : Connective),
      finder ∈ entity.requestedFinders → otherFinder ∈ entity.requestedFinders →
      phrase.trailing = none → otherPhrase.trailing = none →
      ResolvesAs entity preferences finder phrase resolution →
      ResolvesAs entity preferences otherFinder otherPhrase otherResolution →
      phrase.clauses = earlier ++ (clause, some connective) :: later →
      otherPhrase.clauses = earlier ++ (clause, some otherConnective) :: later →
      connective ≠ otherConnective →
        (finderMethod entity preferences finder resolution).body ≠
          (finderMethod entity preferences otherFinder otherResolution).body) := by
  constructor
  · intro tested
    obtain ⟨parameter, bound, _⟩ := tested taggedEntity {} "findPeopleByTagsIsNull" _ _ (by decide) rfl
      resolves_tagsIsNull _ List.mem_cons_self (by decide)
    cases bound
  · intro told
    have same := body_eq_of_unjoined resolves_nameAndTags resolves_nameOrTags (clauses_joinedPhrase _)
      (clauses_joinedPhrase _) not_joins_tags (by decide)
    exact told taggedEntity {} _ _ _ _ _ _ _ _ _ _ _ (by decide) (by decide) rfl rfl resolves_nameAndTags
      resolves_nameOrTags (clauses_joinedPhrase _) (clauses_joinedPhrase _) (by decide) same

end QueryByName.Method
