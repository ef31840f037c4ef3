import QueryByName.Method.Plan
import QueryByName.Proofs.Query.ListedFinders
import QueryByName.Proofs.Query.PlainPhrase

/-! # Methods and the queries they bind

The body of a finder method is put together from four readings of one row of words: the text of
the query, its parameters, the fields that pattern keywords follow, and the types of the
parameters.  For a phrase over columns with plain names they agree, and `BindsQuery` says what the
lines of the method then are.  Its query needs no escapes, so the text between the quotes is the
query itself.
-/

namespace QueryByName.Method

open QueryByName.Finder (Phrase Preferences Word)
open QueryByName.Java (Entity Field Parameter isPlainIdentifier isPlainIdentifierText)
open QueryByName.Query (PlainPhrase Renders Resolution patternTest placeholders)

/-! ## Lines -/

/-- The line that refuses a missing argument, and an empty one if it is a text. -/
def checkLine (parameter : Parameter) : String :=
  "if (" ++ parameter.name ++ " == null" ++
    (if parameter.type.isString then " || " ++ parameter.name ++ ".length() == 0" else "") ++
    ") throw new IllegalArgumentException(\"The " ++ parameter.name ++ " argument is required\");"

def bindingLine (parameter : Parameter) : String :=
  "q.setParameter(\"" ++ (parameter.name ++ ("\", " ++ (parameter.name ++ ");")))

def creationLine (query : TypedQuery) : String :=
  query.type.source ++ " q = em.createQuery(\"" ++ query.text ++ "\", " ++ query.resultClass ++ ".class);"

/-- The name of the parameter of a query that a line binds. -/
def boundName? (line : String) : Option String :=
  (Text.afterLead? "q.setParameter(\"" line).map fun rest => String.ofList (rest.toList.takeWhile (· != '"'))

/-- A method that binds what its query mentions, and nothing else: it checks its arguments, opens
those that the query tests against a pattern, creates the query and binds every parameter. -/
structure BindsQuery (entityName : String) (query : TypedQuery) (last : String) (method : QueryMethod) : Prop where
  mentioned : placeholders query.text = method.parameters.map (·.name)
  bound : method.body.filterMap boundName? = method.parameters.map (·.name)
  body : method.body =
    (method.parameters.filter (!·.type.isPrimitive)).map checkLine ++
    (method.parameters.filter fun parameter => Text.contains (patternTest parameter.name) query.text).flatMap
      (fun parameter => (Statement.openPattern parameter.name).lines) ++
    ["EntityManager em = " ++ entityName ++ ".entityManager();", creationLine query] ++
    method.parameters.map bindingLine ++
    [last]

theorem lines_requireArgument (parameter : Parameter) :
    (Statement.requireArgument parameter).lines = [checkLine parameter] := by
  rw [Statement.lines, missingTest, checkLine, List.singleton_inj, ← String.toList_inj]
  split <;> simp

theorem lines_bindValue (parameter : Parameter) :
    (Statement.bindValue parameter.name).lines = [bindingLine parameter] := by
  simp only [Statement.lines, String.append_assoc]
  rfl

theorem boundName?_bindingLine {parameter : Parameter} (plain : isPlainIdentifier parameter.name = true) :
    boundName? (bindingLine parameter) = some parameter.name := by
  have quoteless : ∀ letter ∈ parameter.name.toList, (letter != '"') = true := by
    intro letter present
    rw [bne_iff_ne]
    rintro rfl
    exact Java.not_mem_of_not_nameLetter plain rfl present
  have split : Text.afterLead? "q.setParameter(\"" (bindingLine parameter) =
      some (parameter.name ++ ("\", " ++ (parameter.name ++ ");"))) :=
    Text.afterLead?_eq_some_iff.mpr rfl
  rw [boundName?, split, Option.map_some, String.toList_append, List.takeWhile_append_of_pos quoteless]
  simp

theorem boundName?_of_head {line : String} {letter : Char} (begins : line.toList.head? = some letter)
    (other : letter ≠ 'q') : boundName? line = none := by
  rw [boundName?, Option.map_eq_none_iff, Text.afterLead?_eq_none_iff]
  intro lead
  obtain ⟨rest, split⟩ := lead
  have first : "q.setParameter(\"".toList.head? = some 'q' := by decide
  rw [← split, List.head?_append, first, Option.some_or] at begins
  exact other (Option.some.inj begins).symm

/-- An assignment to a name binds nothing, not even one to `q`. -/
theorem boundName?_assignment {name : String} (plain : isPlainIdentifier name = true) (value : String) :
    boundName? (name ++ " = " ++ value) = none := by
  rw [boundName?, Option.map_eq_none_iff, Text.afterLead?_eq_none_iff]
  intro lead
  obtain ⟨rest, split⟩ := lead
  have called : "q.setParameter(\"".toList = "q".toList ++ '.' :: "setParameter(\"".toList := by decide
  have assigned : (name ++ " = " ++ value).toList = name.toList ++ ' ' :: ("= ".toList ++ value.toList) := by
    simp
  rw [called, assigned, List.append_assoc] at split
  -- both sides begin with a name, and different letters follow it
  have same := congrArg Text.nameLead split
  rw [Text.nameLead_append_of_plain rfl, Text.nameLead_append_of_plain plain, List.cons_append,
    Text.nameLead_cons_of_apart rfl, Text.nameLead_cons_of_apart rfl, List.append_nil, List.append_nil] at same
  rw [same, List.cons_append] at split
  exact absurd (List.cons.inj (List.append_cancel_left split)).1 (by decide)

/-! ## Steps -/

theorem boundNames_checkLines (parameters : List Parameter) :
    (parameters.map checkLine).filterMap boundName? = [] := by
  have silent (parameter : Parameter) : boundName? (checkLine parameter) = none := by
    have begins : (checkLine parameter).toList.head? = some 'i' := by simp [checkLine]
    exact boundName?_of_head begins (by decide)
  simp [List.filterMap_map, silent]

theorem boundNames_openPattern {name : String} (plain : isPlainIdentifier name = true) :
    (Statement.openPattern name).lines.filterMap boundName? = [] := by
  have assigned (value : String) : boundName? (name ++ (" = " ++ value)) = none := by
    rw [← String.append_assoc]
    exact boundName?_assignment plain value
  have tested (rest : String) : boundName? ("if (" ++ rest) = none := by
    have begins : ("if (" ++ rest).toList.head? = some 'i' := by simp
    exact boundName?_of_head begins (by decide)
  have indented (rest : String) : boundName? ("    " ++ rest) = none := by
    have begins : ("    " ++ rest).toList.head? = some ' ' := by simp
    exact boundName?_of_head begins (by decide)
  have closed : boundName? "\x7d" = none := by decide
  simp only [Statement.lines, String.append_assoc, List.filterMap_cons, List.filterMap_nil, assigned, tested, indented,
    closed]

theorem boundNames_openPatterns {parameters : List Parameter}
    (plain : ∀ parameter ∈ parameters, isPlainIdentifier parameter.name = true) :
    (parameters.flatMap fun parameter => (Statement.openPattern parameter.name).lines).filterMap boundName? = [] := by
  rw [List.filterMap_flatMap, List.flatMap_eq_nil_iff]
  exact fun parameter present => boundNames_openPattern (plain parameter present)

theorem boundNames_bindingLines {parameters : List Parameter}
    (plain : ∀ parameter ∈ parameters, isPlainIdentifier parameter.name = true) :
    (parameters.map bindingLine).filterMap boundName? = parameters.map (·.name) := by
  rw [List.filterMap_map, ← List.filterMap_eq_map]
  exact List.filterMap_congr fun parameter present => boundName?_bindingLine (plain parameter present)

theorem boundName?_creationLine (query : TypedQuery) : boundName? (creationLine query) = none := by
  have named : Text.afterLast '.' "javax.persistence.TypedQuery" = "TypedQuery" := by decide
  have begins : (creationLine query).toList.head? = some 'T' := by
    simp [creationLine, TypedQuery.type, Java.TypeExpr.source, named]
  exact boundName?_of_head begins (by decide)

theorem boundName?_managerLine (entityName : String) :
    boundName? ("EntityManager em = " ++ entityName ++ ".entityManager();") = none := by
  have begins : ("EntityManager em = " ++ entityName ++ ".entityManager();").toList.head? = some 'E' := by simp
  exact boundName?_of_head begins (by decide)

/-! ## Bodies -/

theorem statements_scalar {frame : Frame}
    (scalar : ∀ parameter ∈ frame.resolution.parameters, parameter.type.isCollection = false) (query : TypedQuery)
    (last : Statement) :
    frame.statements query last =
      argumentChecks frame.resolution.parameters ++
      patternSteps frame.resolution.words frame.resolution.parameters ++
      [Statement.obtainManager frame.entityName, .createQuery query.type query.text query.resultClass] ++
      (frame.resolution.parameters.map fun parameter => .bindValue parameter.name) ++
      [last] := by
  have none : frame.collections = [] :=
    List.filter_eq_nil_iff.mpr fun parameter present => by simp [scalar parameter present]
  have all : frame.values = frame.resolution.parameters :=
    List.filter_eq_self.mpr fun parameter present => by simp [scalar parameter present]
  simp [Frame.statements, none, all, creationSteps, bindingSteps]

theorem flatMap_lines_map {step : Parameter → Statement} {line : Parameter → String}
    (single : ∀ parameter, (step parameter).lines = [line parameter]) (parameters : List Parameter) :
    (parameters.map step).flatMap Statement.lines = parameters.map line := by
  rw [List.flatMap_map, List.map_eq_flatMap]
  exact List.flatMap_congr fun parameter _ => single parameter

theorem lines_patternSteps {words : List Word} {parameters : List Parameter} {query : String}
    (tested : ∀ parameter ∈ parameters,
      (Text.contains (patternTest parameter.name) query = true ↔ parameter.name ∈ patternFields words)) :
    (patternSteps words parameters).flatMap Statement.lines =
      (parameters.filter fun parameter => Text.contains (patternTest parameter.name) query).flatMap
        fun parameter => (Statement.openPattern parameter.name).lines := by
  -- the steps look for the pattern in the words, the lines in the text of the query
  have same : (parameters.filter fun parameter => (patternFields words).contains parameter.name) =
      parameters.filter fun parameter => Text.contains (patternTest parameter.name) query := by
    refine List.filter_congr fun parameter present => ?_
    rw [Bool.eq_iff_iff, List.contains_iff_mem, tested parameter present]
  rw [patternSteps, same, List.flatMap_map]

theorem lines_fixed {query : TypedQuery} (literal : Java.StringLiteral.escaped query.text = query.text)
    (entityName : String) :
    [Statement.obtainManager entityName, .createQuery query.type query.text query.resultClass].flatMap
      Statement.lines = ["EntityManager em = " ++ entityName ++ ".entityManager();", creationLine query] := by
  simp only [List.flatMap_cons, List.flatMap_nil, Statement.lines, literal, creationLine, List.singleton_append,
    List.append_nil]

/-- A body over a query that renders a phrase binds what the query mentions. -/
theorem bindsQuery_of_renders {frame : Frame} {phrase : Phrase} {query : TypedQuery}
    (words : frame.resolution.words = phrase.words)
    (bound : frame.resolution.parameters = Query.parameters phrase.words)
    (scalar : ∀ parameter ∈ frame.resolution.parameters, parameter.type.isCollection = false)
    (plain : ∀ parameter ∈ frame.resolution.parameters, isPlainIdentifier parameter.name = true)
    (renders : Renders phrase query.text) {last : Statement} {line : String} (ends : last.lines = [line])
    (silent : boundName? line = none) {method : QueryMethod}
    (taken : method.parameters = frame.resolution.parameters)
    (written : method.body = (frame.statements query last).flatMap Statement.lines) :
    BindsQuery frame.entityName query line method := by
  have tested : ∀ parameter ∈ frame.resolution.parameters,
      (Text.contains (patternTest parameter.name) query.text = true ↔
        parameter.name ∈ patternFields frame.resolution.words) := by
    intro parameter present
    rw [words]
    exact renders.patterns parameter.name (plain parameter present)
  -- without collections the steps are one line each, except for the patterns
  have body : method.body =
      (frame.resolution.parameters.filter (!·.type.isPrimitive)).map checkLine ++
      (frame.resolution.parameters.filter fun parameter =>
        Text.contains (patternTest parameter.name) query.text).flatMap
          (fun parameter => (Statement.openPattern parameter.name).lines) ++
      ["EntityManager em = " ++ frame.entityName ++ ".entityManager();", creationLine query] ++
      frame.resolution.parameters.map bindingLine ++
      [line] := by
    rw [written, statements_scalar scalar, List.flatMap_append, List.flatMap_append, List.flatMap_append,
      List.flatMap_append, argumentChecks, flatMap_lines_map lines_requireArgument, lines_patternSteps tested,
      lines_fixed renders.literal, flatMap_lines_map lines_bindValue, List.flatMap_singleton, ends]
  refine ⟨?_, ?_, ?_⟩
  · rw [renders.placeholders, taken, bound]
  · -- the checks, the patterns and the fixed lines bind nothing, so only the binding lines are left
    rw [body, taken, List.filterMap_append, List.filterMap_append, List.filterMap_append, List.filterMap_append,
      boundNames_checkLines, boundNames_openPatterns fun parameter kept => plain parameter (List.mem_of_mem_filter kept),
      boundNames_bindingLines plain]
    simp [boundName?_managerLine, boundName?_creationLine, silent]
  · rw [taken]
    exact body

/-- Over a phrase about columns both methods of a frame bind what their queries mention. -/
theorem bindsQuery_frame (frame : Frame) {phrase : Phrase} (plainPhrase : PlainPhrase phrase)
    (resolved : frame.resolution = Resolution.ofWords phrase.words frame.entityName frame.entityAlias)
    (entityPlain : isPlainIdentifier frame.entityName = true)
    (aliasPlain : isPlainIdentifier frame.entityAlias = true) (name : String) :
    BindsQuery frame.entityName frame.selectQuery "return q;" (frame.selectMethod name) ∧
    BindsQuery frame.entityName frame.countQuery "return q.getSingleResult();" (frame.countMethod name) := by
  have words : frame.resolution.words = phrase.words := by rw [resolved, Resolution.ofWords]
  have bound : frame.resolution.parameters = Query.parameters phrase.words := by rw [resolved, Resolution.ofWords]
  have scalar : ∀ parameter ∈ frame.resolution.parameters, parameter.type.isCollection = false := by
    rw [bound]
    exact fun parameter present => (plainPhrase.parameters_column parameter present).1
  have plain : ∀ parameter ∈ frame.resolution.parameters, isPlainIdentifier parameter.name = true := by
    rw [bound]
    exact fun parameter present => (plainPhrase.parameters_column parameter present).2
  have selects : Renders phrase frame.selectQuery.text := by
    rw [Frame.selectQuery, resolved]
    exact Query.renders_selectText plainPhrase entityPlain aliasPlain
  have counts : Renders phrase frame.countQuery.text := by
    rw [Frame.countQuery, resolved]
    exact Query.renders_countingForm plainPhrase entityPlain aliasPlain
  have returnsQuery : Statement.returnQuery.lines = ["return q;"] := rfl
  have returnsResult : Statement.returnResult.lines = ["return q.getSingleResult();"] := rfl
  constructor
  · exact bindsQuery_of_renders words bound scalar plain selects returnsQuery (by decide) rfl rfl
  · exact bindsQuery_of_renders words bound scalar plain counts returnsResult (by decide) rfl rfl

/-! ## The methods of an entity -/

section Plans

variable {entity : Entity} {preferences : Preferences} {finder : String} {plan own : Plan}

theorem ofFinder_of_resolve {answer : Except Finder.Refusal Resolution}
    (resolved : Query.resolve entity.body finder entity.plural entity.simpleName preferences.entityAlias =
      some answer) :
    Plan.ofFinder entity preferences finder = some (Plan.ofOutcome entity preferences finder answer) := by
  rw [Plan.ofFinder, resolved, Option.map_some]

theorem ofFinders_cons_iff {finders : List String} :
    Plan.ofFinders entity preferences (finder :: finders) = some plan ↔
      ∃ own others, Plan.ofFinder entity preferences finder = some own ∧
        Plan.ofFinders entity preferences finders = some others ∧ plan = own.append others := by
  rw [Plan.ofFinders, Option.map_eq_some_iff]
  simp only [Query.mapM_eq_some_iff, List.forall₂_cons_left_iff]
  constructor
  · rintro ⟨_, ⟨own, plans, planned, others, rfl⟩, rfl⟩
    exact ⟨own, _, planned, Option.map_eq_some_iff.mpr ⟨plans, Query.mapM_eq_some_iff.mpr others, rfl⟩, rfl⟩
  · rintro ⟨own, _, planned, others, rfl⟩
    obtain ⟨plans, listed, rfl⟩ := Option.map_eq_some_iff.mp others
    exact ⟨_, ⟨own, plans, planned, Query.mapM_eq_some_iff.mp listed, rfl⟩, rfl⟩

theorem ofFinders_append_iff {before after : List String} :
    Plan.ofFinders entity preferences (before ++ after) = some plan ↔
      ∃ earlier later, Plan.ofFinders entity preferences before = some earlier ∧
        Plan.ofFinders entity preferences after = some later ∧ plan = earlier.append later := by
  induction before generalizing plan with
  | nil =>
    constructor
    · intro returned
      exact ⟨Plan.empty, plan, rfl, returned, rfl⟩
    · rintro ⟨_, later, none, after, rfl⟩
      obtain rfl := Option.some.inj none
      exact after
  | cons finder before inductionHypothesis =>
    simp only [List.cons_append, ofFinders_cons_iff, inductionHypothesis]
    constructor
    · rintro ⟨own, _, planned, ⟨earlier, later, before, after, rfl⟩, rfl⟩
      exact ⟨_, later, ⟨own, earlier, planned, before, rfl⟩, after, by simp [Plan.append]⟩
    · rintro ⟨_, later, ⟨own, earlier, planned, before, rfl⟩, after, rfl⟩
      exact ⟨own, _, planned, ⟨earlier, later, before, after, rfl⟩, by simp [Plan.append]⟩

/-- What a requested finder adds stands in the plan of its entity. -/
theorem methods_infix_ofEntity (returned : Plan.ofEntity entity preferences = some plan)
    (requested : finder ∈ entity.requestedFinders)
    (planned : Plan.ofFinder entity preferences finder = some own) : own.methods <:+: plan.methods := by
  obtain ⟨before, after, split⟩ := List.append_of_mem (List.mem_eraseDups.mpr requested)
  rw [Plan.ofEntity, split] at returned
  obtain ⟨earlier, rest, _, restReturned, whole⟩ := ofFinders_append_iff.mp returned
  obtain ⟨added, later, plannedAgain, _, restIs⟩ := ofFinders_cons_iff.mp restReturned
  obtain rfl := Option.some.inj (plannedAgain.symm.trans planned)
  rw [whole, restIs]
  exact ⟨earlier.methods, later.methods, List.append_assoc _ _ _⟩

/-- Where every field that finders may mention has a name, there is a plan. -/
theorem exists_ofEntity (named : ∀ field ∈ entity.body.mentionable, field.name ≠ "") (preferences : Preferences) :
    ∃ plan, Plan.ofEntity entity preferences = some plan := by
  have each : ∀ finder ∈ entity.requestedFinders.eraseDups,
      ∃ own, Plan.ofFinder entity preferences finder = some own := by
    intro finder _
    obtain ⟨outcome, resolved⟩ :=
      Query.exists_resolve named finder entity.plural entity.simpleName preferences.entityAlias
    exact ⟨_, ofFinder_of_resolve resolved⟩
  obtain ⟨plans, planned⟩ := Query.exists_mapM each
  exact ⟨_, congrArg (Option.map _) planned⟩

/-- Whatever plan an entity has holds the given methods in a row, and it has one if every field that
finders may mention has a name. -/
structure Introduces (entity : Entity) (preferences : Preferences) (methods : List QueryMethod) : Prop where
  returned : (∀ field ∈ entity.body.mentionable, field.name ≠ "") →
    ∃ plan, Plan.ofEntity entity preferences = some plan
  held : ∀ plan, Plan.ofEntity entity preferences = some plan → methods <:+: plan.methods

theorem introduces_of_planned (requested : finder ∈ entity.requestedFinders)
    (planned : Plan.ofFinder entity preferences finder = some own) : Introduces entity preferences own.methods where
  returned named := exists_ofEntity named preferences
  held _ returned := methods_infix_ofEntity returned requested planned

end Plans

theorem plainPhrase_of_resolve {body : Java.ClassBody}
    (fieldsPlain : ∀ field ∈ body.fields, isPlainIdentifier field.name = true)
    {finder plural entityName entityAlias : String} {resolution : Resolution}
    (resolved : Query.resolve body finder plural entityName entityAlias = some (.ok resolution)) {phrase : Phrase}
    (grammatical : resolution.words = phrase.words)
    (scalar : ∀ clause ∈ phrase.members, clause.field.isCollection = false) : PlainPhrase phrase := by
  refine ⟨scalar, fun clause member => fieldsPlain _ (Query.mem_fields_of_resolve resolved ?_)⟩
  rw [grammatical]
  exact Finder.Phrase.field_mem_of_mem_members member

/-- Fields that are called by identifiers have names. -/
theorem named_of_plain {body : Java.ClassBody}
    (fieldsPlain : ∀ field ∈ body.fields, isPlainIdentifier field.name = true) :
    ∀ field ∈ body.mentionable, field.name ≠ "" := by
  intro field mentioned nameless
  have plain := fieldsPlain field (Java.ClassBody.mem_fields_of_mem_settable (List.mem_of_mem_filter mentioned))
  rw [nameless] at plain
  cases plain

def personEntity : Entity where
  annotations :=
    [.written "@RooJpaActiveRecord" [("finders", .list [.text "findPeopleByLastNameLikeAndAgeBetween"])]]
  body := .bean (.named "com.example.Person")
    [⟨"lastName", .named "java.lang.String", false, false, []⟩, ⟨"age", .named "java.lang.Integer", false, false, []⟩]

def personWords : List Finder.Word :=
  [.field ⟨"lastName", .named "java.lang.String", false, false, []⟩, .keyword .like, .keyword .and,
    .field ⟨"age", .named "java.lang.Integer", false, false, []⟩, .keyword .between]

end QueryByName.Method
