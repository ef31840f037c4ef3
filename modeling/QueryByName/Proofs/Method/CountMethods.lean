import QueryByName.Proofs.Method.Clauses
import QueryByName.Proofs.Method.Requests

/-! # Count methods

The count method of a finder is written beside the finder method, from the counting form of the same
query.  That form replaces a lead that every query has (`selectText_eq`, `countingForm_eq`), so the
two queries go on alike behind their leads.  The bodies are the same steps around two queries:
`TwinBodies` says which lines differ, and that the loops over collections are not among them.
-/

namespace QueryByName.Method

open QueryByName.Finder (Preferences Word)
open QueryByName.Java (Entity)
open QueryByName.Query (Resolution countLead countingForm queryTail selectLead selectText)

/-! ## Queries -/

theorem existsUnique_tail (words : List Word) (entityName entityAlias : String) :
    ∃! tail, selectText words entityName entityAlias = selectLead entityAlias ++ tail ∧
      countingForm entityAlias (selectText words entityName entityAlias) = countLead entityAlias ++ tail ∧
      (Resolution.ofWords words entityName entityAlias).countQuery = countLead entityAlias ++ tail := by
  have selects := Query.selectText_eq words entityName entityAlias
  have counts := Query.countingForm_eq words entityName entityAlias
  refine ⟨queryTail words entityName entityAlias, ⟨selects, counts, counts⟩, fun tail same => ?_⟩
  exact (String.append_right_inj _).mp (same.1.symm.trans selects)

/-! ## Bodies -/

/-- The lines before a query is created: checks, patterns and the manager. -/
def openingLines (frame : Frame) : List String :=
  (argumentChecks frame.resolution.parameters ++
    patternSteps frame.resolution.words frame.resolution.parameters ++
    [Statement.obtainManager frame.entityName]).flatMap Statement.lines

/-- The lines that append a test for each element of a collection to the query. -/
def loopLines (frame : Frame) : List String :=
  (frame.collections.flatMap fun parameter =>
    [Statement.declareCount parameter.name, .appendTests parameter frame.entityAlias]).flatMap Statement.lines

def bindingLines (frame : Frame) : List String :=
  (bindingSteps frame.values frame.collections).flatMap Statement.lines

/-- The bodies of the two methods of a finder, whose queries have one tail.  They differ in the line
with the text of the query, in the line that creates it and in the last line. -/
inductive TwinBodies (frame : Frame) (tail : String) : List String → List String → Prop where
  | fixed (single : frame.collections = []) :
      TwinBodies frame tail
        (openingLines frame ++
          (Statement.createQuery ⟨"javax.persistence.TypedQuery", [frame.entityType]⟩
            (selectLead frame.entityAlias ++ tail) frame.entityName).lines ++
          bindingLines frame ++ ["return q;"])
        (openingLines frame ++
          (Statement.createQuery ⟨"javax.persistence.TypedQuery", [.named "java.lang.Long"]⟩
            (countLead frame.entityAlias ++ tail) "Long").lines ++
          bindingLines frame ++ ["return q.getSingleResult();"])
  | built (several : frame.collections ≠ []) :
      TwinBodies frame tail
        (openingLines frame ++ (Statement.beginQuery (selectLead frame.entityAlias ++ tail)).lines ++ loopLines frame ++
          (Statement.createBuiltQuery ⟨"javax.persistence.TypedQuery", [frame.entityType]⟩ frame.entityName).lines ++
          bindingLines frame ++ ["return q;"])
        (openingLines frame ++ (Statement.beginQuery (countLead frame.entityAlias ++ tail)).lines ++ loopLines frame ++
          (Statement.createBuiltQuery ⟨"javax.persistence.TypedQuery", [.named "java.lang.Long"]⟩ "Long").lines ++
          bindingLines frame ++ ["return q.getSingleResult();"])

theorem TwinBodies.length_eq {frame : Frame} {tail : String} {body counted : List String}
    (twins : TwinBodies frame tail body counted) : counted.length = body.length := by
  cases twins with
  | fixed => simp [Statement.lines]
  | built => simp [Statement.lines]

theorem lines_statements (frame : Frame) (query : TypedQuery) (last : Statement) :
    (frame.statements query last).flatMap Statement.lines =
      openingLines frame ++ (creationSteps query frame.entityAlias frame.collections).flatMap Statement.lines ++
      bindingLines frame ++ last.lines := by
  rw [Frame.statements, List.flatMap_append, List.flatMap_append, List.flatMap_append, List.flatMap_singleton,
    openingLines, bindingLines]

theorem lines_creationSteps_of_ne_nil {frame : Frame} (several : frame.collections ≠ []) (query : TypedQuery) :
    (creationSteps query frame.entityAlias frame.collections).flatMap Statement.lines =
      (Statement.beginQuery query.text).lines ++ loopLines frame ++
        (Statement.createBuiltQuery query.type query.resultClass).lines := by
  rw [creationSteps, List.flatMap_append, List.flatMap_append, List.flatMap_singleton, List.flatMap_singleton,
    loopLines]
  exact several

theorem twinBodies_frame {frame : Frame} {tail : String}
    (selects : frame.resolution.query = selectLead frame.entityAlias ++ tail)
    (counts : frame.resolution.countQuery = countLead frame.entityAlias ++ tail) (name : String) :
    TwinBodies frame tail (frame.selectMethod name).body (frame.countMethod name).body := by
  rw [Frame.selectMethod, Frame.countMethod, lines_statements, lines_statements]
  by_cases single : frame.collections = []
  · rw [single, creationSteps, creationSteps, List.flatMap_singleton, List.flatMap_singleton, Frame.selectQuery,
      Frame.countQuery, selects, counts]
    exact .fixed single
  · rw [lines_creationSteps_of_ne_nil single, lines_creationSteps_of_ne_nil single, Frame.selectQuery,
      Frame.countQuery, selects, counts, ← List.append_assoc, ← List.append_assoc, ← List.append_assoc,
      ← List.append_assoc]
    exact .built single

/-! ## Methods -/

/-- A count method that counts what a finder method selects. -/
structure CountsFor (frame : Frame) (tail : String) (select count : QueryMethod) : Prop where
  parameters : count.parameters = select.parameters
  length : count.body.length = select.body.length
  bodies : TwinBodies frame tail select.body count.body

/-- Every query and its counting form differ in their leads only, and so do the two methods of every
finder that is resolved, wherever count methods are wanted. -/
theorem count_follows_select :
    (∀ (words : List Word) (entityName entityAlias : String),
      ∃! tail, selectText words entityName entityAlias = selectLead entityAlias ++ tail ∧
        countingForm entityAlias (selectText words entityName entityAlias) = countLead entityAlias ++ tail ∧
        (Resolution.ofWords words entityName entityAlias).countQuery = countLead entityAlias ++ tail) ∧
    (∀ (entity : Entity) (preferences : Preferences), preferences.countQueries = true →
      ∀ finder ∈ entity.requestedFinders, ∀ resolution : Resolution,
        Query.resolve entity.body finder entity.plural entity.simpleName preferences.entityAlias =
            some (.ok resolution) →
          ∃ (select count : QueryMethod) (tail : String),
            Plan.ofFinder entity preferences finder = some ⟨[select, count], []⟩ ∧
            Introduces entity preferences [select, count] ∧
            select.name = finder ∧ count.name = "count" ++ Text.capitalized finder ∧
            resolution.query = selectLead preferences.entityAlias ++ tail ∧
            resolution.countQuery = countLead preferences.entityAlias ++ tail ∧
            CountsFor ⟨entity.type, preferences.entityAlias, resolution⟩ tail select count) := by
  refine ⟨existsUnique_tail, ?_⟩
  intro entity preferences counted finder requested resolution resolved
  have eq_ofWords := Query.eq_ofWords_of_resolve resolved
  obtain ⟨tail, ⟨selects, _, counts⟩, _⟩ :=
    existsUnique_tail resolution.words entity.simpleName preferences.entityAlias
  have query : resolution.query = selectLead preferences.entityAlias ++ tail := by
    rw [eq_ofWords]
    exact selects
  have countQuery : resolution.countQuery = countLead preferences.entityAlias ++ tail := by
    rw [eq_ofWords]
    exact counts
  let frame : Frame := ⟨entity.type, preferences.entityAlias, resolution⟩
  have planned : Plan.ofFinder entity preferences finder =
      some ⟨[frame.selectMethod finder, frame.countMethod finder], []⟩ := by
    rw [ofFinder_of_resolved resolved, methodsOf, if_pos counted]
  have twins : TwinBodies frame tail (frame.selectMethod finder).body (frame.countMethod finder).body :=
    twinBodies_frame query countQuery finder
  exact ⟨_, _, tail, planned, introduces_of_planned requested planned, rfl, rfl, query, countQuery,
    ⟨rfl, twins.length_eq, twins⟩⟩

theorem count_follows_select_tagged :
    "findPeopleByNameAndTags" ∈ taggedEntity.requestedFinders ∧ ∃ (resolution : Resolution) (select count : QueryMethod)
      (tail : String),
      Query.resolve taggedEntity.body "findPeopleByNameAndTags" taggedEntity.plural "Person" "o" =
        some (.ok resolution) ∧
      Plan.ofFinder taggedEntity {} "findPeopleByNameAndTags" = some ⟨[select, count], []⟩ ∧
      resolution.query = selectLead "o" ++ tail ∧ resolution.countQuery = countLead "o" ++ tail ∧
      (Frame.collections ⟨taggedEntity.type, "o", resolution⟩).map (·.name) = ["tags"] ∧
      CountsFor ⟨taggedEntity.type, "o", resolution⟩ tail select count := by
  have requested : "findPeopleByNameAndTags" ∈ taggedEntity.requestedFinders := by decide
  obtain ⟨_, follows⟩ := count_follows_select
  obtain ⟨select, count, tail, planned, _, _, _, query, countQuery, counts⟩ :=
    follows taggedEntity {} rfl _ requested _ resolves_nameAndTags.resolved
  have looped : (Frame.collections ⟨taggedEntity.type, "o",
      Resolution.ofWords (joinedPhrase ⟨.and, rfl⟩).words "Person" "o"⟩).map (·.name) = ["tags"] := by
    decide
  exact ⟨requested, _, select, count, tail, resolves_nameAndTags.resolved, planned, query, countQuery, looped, counts⟩

end QueryByName.Method
