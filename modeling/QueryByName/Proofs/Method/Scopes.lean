import QueryByName.Proofs.Method.Clauses
import QueryByName.Proofs.Method.Requests

/-! # Variables of finder methods

The locals of a finder method have fixed names or names made from its collection parameters, and its
parameters are named after fields.  Locals never clash with each other (`wellScoped_framePieces`).  They
can clash with parameters, since nothing moves one out of the way of the other: `IsLocal` says which
names do (`wellScoped_parameters_iff`), and `KeepsClear` which fields never lead to one of them.

A body is taken apart into pieces, of which some declare a variable and the others only test, assign and
call; together they are the lines of the body (`lines_framePieces`).  A variable that is declared is in
scope in all the pieces behind it, and a variable of a loop only inside the loop, so the same name may be
used by two loops.
-/

namespace QueryByName.Method

open QueryByName.Finder (Preferences Word)
open QueryByName.Java (Entity Field Parameter StringLiteral.escaped)
open QueryByName.Query (Resolution)

/-! ## Pieces of a body -/

/-- A piece of a body.  Only declarations and the heads of loops declare a variable. -/
inductive Piece where
  | plain (lines : List String)
  | declaration (type name value : String)
  | loop (type name source : String) (body : List String)

namespace Piece

def lines : Piece → List String
  | plain lines => lines
  | declaration type name value => [type ++ " " ++ name ++ " = " ++ value ++ ";"]
  | loop type name source body => ("for (" ++ type ++ " " ++ name ++ " : " ++ source ++ ") \x7b") :: body ++ ["\x7d"]

/-- The variables that stay in scope behind a piece. -/
def declared : Piece → List String
  | declaration _ name _ => [name]
  | _ => []

/-- The variables in scope only inside a piece. -/
def inner : Piece → List String
  | loop _ name _ _ => [name]
  | _ => []

end Piece

def declared (pieces : List Piece) : List String :=
  pieces.flatMap Piece.declared

def inner (pieces : List Piece) : List String :=
  pieces.flatMap Piece.inner

/-- Whether every variable of a row of pieces has another name than all that are in scope there. -/
inductive WellScoped : List String → List Piece → Prop where
  | nil {scope : List String} : WellScoped scope []
  | plain {scope lines : List String} {rest : List Piece} (further : WellScoped scope rest) :
      WellScoped scope (.plain lines :: rest)
  | declaration {scope : List String} {type name value : String} {rest : List Piece} (fresh : name ∉ scope)
      (further : WellScoped (name :: scope) rest) : WellScoped scope (.declaration type name value :: rest)
  | loop {scope : List String} {type name source : String} {body : List String} {rest : List Piece}
      (fresh : name ∉ scope) (further : WellScoped scope rest) : WellScoped scope (.loop type name source body :: rest)

theorem WellScoped.fresh {scope : List String} {pieces : List Piece} (wellScoped : WellScoped scope pieces) :
    ∀ name, name ∈ declared pieces ∨ name ∈ inner pieces → name ∉ scope := by
  induction wellScoped with
  | nil => simp [Method.declared, Method.inner]
  | plain _ inductionHypothesis => exact inductionHypothesis
  | @declaration scope type own value rest fresh _ inductionHypothesis =>
    rintro name (here | within) inScope
    · obtain rfl | later := List.mem_cons.mp here
      · exact fresh inScope
      · exact inductionHypothesis name (.inl later) (List.mem_cons_of_mem _ inScope)
    · exact inductionHypothesis name (.inr within) (List.mem_cons_of_mem _ inScope)
  | @loop scope type own source body rest fresh _ inductionHypothesis =>
    rintro name (declares | here) inScope
    · exact inductionHypothesis name (.inl declares) inScope
    · obtain rfl | later := List.mem_cons.mp here
      · exact fresh inScope
      · exact inductionHypothesis name (.inr later) inScope

/-- Variables are well scoped if none is declared twice, none of a loop is declared outside of it, and
none is in scope before. -/
theorem wellScoped_of_apart {scope : List String} {pieces : List Piece} (once : (declared pieces).Nodup)
    (apart : ∀ name ∈ inner pieces, name ∉ declared pieces)
    (fresh : ∀ name, name ∈ declared pieces ∨ name ∈ inner pieces → name ∉ scope) : WellScoped scope pieces := by
  induction pieces generalizing scope with
  | nil => exact .nil
  | cons piece rest inductionHypothesis =>
    cases piece with
    | plain lines => exact .plain (inductionHypothesis once apart fresh)
    | declaration type own value =>
      obtain ⟨ownOnce, restOnce⟩ := List.nodup_cons.mp once
      refine .declaration (fresh own (.inl List.mem_cons_self)) (inductionHypothesis restOnce ?_ ?_)
      · exact fun name within declares => apart name within (List.mem_cons_of_mem _ declares)
      · rintro name declares inScope
        obtain rfl | inScope := List.mem_cons.mp inScope
        · obtain declares | within := declares
          · exact ownOnce declares
          · exact apart _ within List.mem_cons_self
        · exact fresh name (declares.imp_left (List.mem_cons_of_mem _)) inScope
    | loop type own source body =>
      refine .loop (fresh own (.inr List.mem_cons_self)) (inductionHypothesis once ?_ ?_)
      · exact fun name within => apart name (List.mem_cons_of_mem _ within)
      · exact fun name declares => fresh name (declares.imp_right (List.mem_cons_of_mem _))

/-! ## The pieces of a method -/

namespace Statement

def pieces : Statement → List Piece
  | obtainManager entityName => [.declaration "EntityManager" "em" (entityName ++ ".entityManager()")]
  | createQuery queryType query resultClass =>
    [.declaration queryType.source "q"
      ("em.createQuery(\"" ++ StringLiteral.escaped query ++ "\", " ++ resultClass ++ ".class)")]
  | beginQuery query =>
    [.declaration "StringBuilder" "queryBuilder" ("new StringBuilder(\"" ++ StringLiteral.escaped query ++ "\")")]
  | declareCount name => [.declaration "int" (name ++ "Idx") "0"]
  | createBuiltQuery queryType resultClass =>
    [.declaration queryType.source "q" ("em.createQuery(queryBuilder.toString(), " ++ resultClass ++ ".class)")]
  | appendTests parameter entityAlias =>
    [.loop (elementTypeName parameter) (parameter.name ++ "Item") parameter.name
      ["    queryBuilder.append(queryBuilder.indexOf(\" WHERE \") < 0 ? \" WHERE \" : \" AND \");",
        "    queryBuilder.append(\":" ++ parameter.name ++ "_item\").append(" ++ parameter.name
          ++ "Idx++).append(\" MEMBER OF " ++ entityAlias ++ "." ++ parameter.name ++ "\");"]]
  | bindElements parameter =>
    [.loop (elementTypeName parameter) (parameter.name ++ "Item") parameter.name
      ["    q.setParameter(\"" ++ parameter.name ++ "_item\" + " ++ parameter.name ++ "Idx++, "
        ++ parameter.name ++ "Item);"]]
  | other => [.plain other.lines]

theorem lines_pieces (statement : Statement) : statement.pieces.flatMap Piece.lines = statement.lines := by
  cases statement with
  | obtainManager | createQuery | beginQuery | declareCount | createBuiltQuery =>
    simp only [pieces, Piece.lines, lines, List.flatMap_singleton, List.singleton_inj, ← String.toList_inj]
    simp
  | appendTests | bindElements =>
    simp only [pieces, Piece.lines, lines, loopHead, List.flatMap_singleton, List.cons_append, List.nil_append,
      List.cons.injEq, and_true, ← String.toList_inj]
    simp
  | requireArgument | openPattern | bindValue | resetCount | returnQuery | returnResult =>
    exact List.flatMap_singleton ..

end Statement

def Frame.pieces (frame : Frame) (query : TypedQuery) (last : Statement) : List Piece :=
  (frame.statements query last).flatMap Statement.pieces

theorem lines_framePieces (frame : Frame) (query : TypedQuery) (last : Statement) :
    (frame.pieces query last).flatMap Piece.lines = (frame.statements query last).flatMap Statement.lines := by
  rw [Frame.pieces, List.flatMap_assoc]
  exact List.flatMap_congr fun statement _ => statement.lines_pieces

theorem declared_append (pieces further : List Piece) :
    declared (pieces ++ further) = declared pieces ++ declared further :=
  List.flatMap_append

theorem inner_append (pieces further : List Piece) :
    inner (pieces ++ further) = inner pieces ++ inner further :=
  List.flatMap_append

/-- Steps that declare nothing leave a scope as it is. -/
def Silent (statement : Statement) : Prop :=
  declared statement.pieces = [] ∧ inner statement.pieces = []

theorem names_of_silent {statements : List Statement} (silent : ∀ statement ∈ statements, Silent statement) :
    declared (statements.flatMap Statement.pieces) = [] ∧ inner (statements.flatMap Statement.pieces) = [] := by
  constructor
  · rw [declared, List.flatMap_assoc, List.flatMap_eq_nil_iff]
    exact fun statement present => (silent statement present).1
  · rw [inner, List.flatMap_assoc, List.flatMap_eq_nil_iff]
    exact fun statement present => (silent statement present).2

theorem silent_opening (frame : Frame) : ∀ statement ∈ argumentChecks frame.resolution.parameters ++
    patternSteps frame.resolution.words frame.resolution.parameters, Silent statement := by
  intro statement present
  obtain checks | opens := List.mem_append.mp present
  · obtain ⟨_, _, rfl⟩ := List.mem_map.mp checks
    exact ⟨rfl, rfl⟩
  · obtain ⟨_, _, rfl⟩ := List.mem_map.mp opens
    exact ⟨rfl, rfl⟩

/-- The variables that stay in scope when a query has been created for the given collections. -/
def createdLocals : List Parameter → List String
  | [] => ["q"]
  | collections => "queryBuilder" :: collections.map (·.name ++ "Idx") ++ ["q"]

def loopLocals (collections : List Parameter) : List String :=
  collections.map (·.name ++ "Item")

theorem declared_creationSteps (query : TypedQuery) (entityAlias : String) (collections : List Parameter) :
    declared ((creationSteps query entityAlias collections).flatMap Statement.pieces) = createdLocals collections := by
  cases collections with
  | nil => rfl
  | cons first rest =>
    simp [creationSteps, createdLocals, declared, Statement.pieces, Piece.declared, List.flatMap_assoc,
      List.map_eq_flatMap]

theorem inner_creationSteps (query : TypedQuery) (entityAlias : String) (collections : List Parameter) :
    inner ((creationSteps query entityAlias collections).flatMap Statement.pieces) = loopLocals collections := by
  cases collections with
  | nil => rfl
  | cons first rest =>
    simp [creationSteps, loopLocals, inner, Statement.pieces, Piece.inner, List.flatMap_assoc, List.map_eq_flatMap]

theorem silent_bindValues (values : List Parameter) :
    ∀ statement ∈ values.map fun parameter => Statement.bindValue parameter.name, Silent statement := by
  intro statement present
  obtain ⟨_, _, rfl⟩ := List.mem_map.mp present
  exact ⟨rfl, rfl⟩

theorem names_bindingSteps (values collections : List Parameter) :
    declared ((bindingSteps values collections).flatMap Statement.pieces) = [] ∧
    inner ((bindingSteps values collections).flatMap Statement.pieces) = loopLocals collections := by
  obtain ⟨noneDeclared, noneInner⟩ := names_of_silent (silent_bindValues values)
  rw [bindingSteps, List.flatMap_append, declared_append, inner_append, noneDeclared, noneInner]
  constructor
  · simp [declared, Statement.pieces, Piece.declared, List.flatMap_assoc]
  · simp [loopLocals, inner, Statement.pieces, Piece.inner, List.flatMap_assoc, List.map_eq_flatMap]

theorem names_framePieces (frame : Frame) (query : TypedQuery) {last : Statement} (silent : Silent last) :
    declared (frame.pieces query last) = "em" :: createdLocals frame.collections ∧
    inner (frame.pieces query last) = loopLocals frame.collections ++ loopLocals frame.collections := by
  obtain ⟨openingDeclared, openingInner⟩ := names_of_silent (silent_opening frame)
  obtain ⟨bindingDeclared, bindingInner⟩ := names_bindingSteps frame.values frame.collections
  obtain ⟨lastDeclared, lastInner⟩ := silent
  have managerDeclared : declared (Statement.obtainManager frame.entityName).pieces = ["em"] := rfl
  have managerInner : inner (Statement.obtainManager frame.entityName).pieces = [] := rfl
  have parts : frame.pieces query last =
      (argumentChecks frame.resolution.parameters ++
        patternSteps frame.resolution.words frame.resolution.parameters).flatMap Statement.pieces ++
      (Statement.obtainManager frame.entityName).pieces ++
      (creationSteps query frame.entityAlias frame.collections).flatMap Statement.pieces ++
      (bindingSteps frame.values frame.collections).flatMap Statement.pieces ++ last.pieces := by
    rw [Frame.pieces, Frame.statements, List.flatMap_append, List.flatMap_append, List.flatMap_append,
      List.flatMap_append, List.flatMap_singleton, List.flatMap_singleton]
  constructor
  · simp only [parts, declared_append, openingDeclared, managerDeclared, declared_creationSteps, bindingDeclared,
      lastDeclared, List.nil_append, List.append_nil, List.singleton_append]
  · simp only [parts, inner_append, openingInner, managerInner, inner_creationSteps, bindingInner, lastInner,
      List.nil_append, List.append_nil]

/-! ## Names of locals -/

/-- The variables of a method with the given parameters. -/
inductive IsLocal (parameters : List Parameter) : String → Prop where
  | manager : IsLocal parameters "em"
  | query : IsLocal parameters "q"
  | builder {collection : Parameter} (given : collection ∈ parameters)
      (collects : collection.type.isCollection = true) : IsLocal parameters "queryBuilder"
  | count {collection : Parameter} (given : collection ∈ parameters)
      (collects : collection.type.isCollection = true) : IsLocal parameters (collection.name ++ "Idx")
  | element {collection : Parameter} (given : collection ∈ parameters)
      (collects : collection.type.isCollection = true) : IsLocal parameters (collection.name ++ "Item")

theorem append_ne_of_not_suffix {ending text : String} (otherwise : ¬ ending.toList <:+ text.toList) (name : String) :
    name ++ ending ≠ text := by
  rintro rfl
  exact otherwise ⟨name.toList, String.toList_append.symm⟩

/-- Names that are made from parameters are none of the fixed ones. -/
theorem made_ne_fixed (name : String) : ∀ fixed ∈ ["em", "queryBuilder", "q"],
    name ++ "Idx" ≠ fixed ∧ name ++ "Item" ≠ fixed := by
  have otherwise : ∀ fixed ∈ ["em", "queryBuilder", "q"],
      ¬ "Idx".toList <:+ fixed.toList ∧ ¬ "Item".toList <:+ fixed.toList := by decide
  intro fixed listed
  obtain ⟨notCount, notElement⟩ := otherwise fixed listed
  exact ⟨append_ne_of_not_suffix notCount name, append_ne_of_not_suffix notElement name⟩

theorem element_ne_count (name other : String) : name ++ "Item" ≠ other ++ "Idx" := by
  intro same
  have lastLetters := congrArg (fun text => text.toList.getLast?) same
  simp at lastLetters

theorem createdLocals_of_ne_nil {collections : List Parameter} (several : collections ≠ []) :
    createdLocals collections = "queryBuilder" :: collections.map (·.name ++ "Idx") ++ ["q"] := by
  cases collections with
  | nil => exact absurd rfl several
  | cons first rest => rfl

theorem mem_createdLocals_iff {collections : List Parameter} {name : String} :
    name ∈ createdLocals collections ↔
      name = "q" ∨ (collections ≠ [] ∧ name = "queryBuilder") ∨
        ∃ collection ∈ collections, collection.name ++ "Idx" = name := by
  by_cases several : collections = []
  · simp [several, createdLocals]
  · rw [createdLocals_of_ne_nil several, List.mem_append, List.mem_cons, List.mem_singleton, List.mem_map,
      and_iff_right several, or_comm]

theorem nodup_createdLocals {collections : List Parameter} (distinct : (collections.map (·.name)).Nodup) :
    ("em" :: createdLocals collections).Nodup := by
  by_cases several : collections = []
  · rw [several]
    decide
  · have injective : Function.Injective fun name : String => name ++ "Idx" := fun _ _ => (String.append_left_inj _).mp
    have counts : (collections.map (·.name ++ "Idx")).Nodup := by
      have mapped := distinct.map injective
      rwa [List.map_map] at mapped
    have manager : "em" ∉ createdLocals collections := by
      rw [mem_createdLocals_iff]
      rintro (same | ⟨_, same⟩ | ⟨collection, _, same⟩)
      · exact absurd same (by decide)
      · exact absurd same (by decide)
      · exact (made_ne_fixed collection.name "em" (by decide)).1 same
    have builder : "queryBuilder" ∉ collections.map (·.name ++ "Idx") := by
      intro listed
      obtain ⟨collection, _, same⟩ := List.mem_map.mp listed
      exact (made_ne_fixed collection.name "queryBuilder" (by decide)).1 same
    have query : "q" ∉ "queryBuilder" :: collections.map (·.name ++ "Idx") := by
      intro listed
      obtain same | listed := List.mem_cons.mp listed
      · exact absurd same (by decide)
      · obtain ⟨collection, _, same⟩ := List.mem_map.mp listed
        exact (made_ne_fixed collection.name "q" (by decide)).1 same
    refine List.nodup_cons.mpr ⟨manager, ?_⟩
    rw [createdLocals_of_ne_nil several, ← List.concat_eq_append]
    exact (List.nodup_cons.mpr ⟨builder, counts⟩).concat query

theorem mem_collections_iff {frame : Frame} {parameter : Parameter} :
    parameter ∈ frame.collections ↔ parameter ∈ frame.resolution.parameters ∧ parameter.type.isCollection = true := by
  rw [Frame.collections, List.mem_filter]

theorem isLocal_iff {frame : Frame} {query : TypedQuery} {last : Statement} (silent : Silent last) {name : String} :
    IsLocal frame.resolution.parameters name ↔
      name ∈ declared (frame.pieces query last) ∨ name ∈ inner (frame.pieces query last) := by
  obtain ⟨declares, loops⟩ := names_framePieces frame query silent
  rw [declares, loops, List.mem_cons, mem_createdLocals_iff, List.mem_append, or_self, loopLocals, List.mem_map]
  simp only [mem_collections_iff]
  constructor
  · rintro (_ | _ | ⟨given, collects⟩ | ⟨given, collects⟩ | ⟨given, collects⟩)
    · exact .inl (.inl rfl)
    · exact .inl (.inr (.inl rfl))
    · exact .inl (.inr (.inr (.inl ⟨List.ne_nil_of_mem (mem_collections_iff.mpr ⟨given, collects⟩), rfl⟩)))
    · exact .inl (.inr (.inr (.inr ⟨_, ⟨given, collects⟩, rfl⟩)))
    · exact .inr ⟨_, ⟨given, collects⟩, rfl⟩
  · rintro ((rfl | rfl | ⟨several, rfl⟩ | ⟨_, ⟨given, collects⟩, rfl⟩) | ⟨_, ⟨given, collects⟩, rfl⟩)
    · exact .manager
    · exact .query
    · obtain ⟨collection, listed⟩ := List.exists_mem_of_ne_nil _ several
      obtain ⟨given, collects⟩ := mem_collections_iff.mp listed
      exact .builder given collects
    · exact .count given collects
    · exact .element given collects

/-- The variables of a method never clash with each other. -/
theorem wellScoped_framePieces (frame : Frame) (distinct : frame.resolution.parameterNames.Nodup)
    (query : TypedQuery) {last : Statement} (silent : Silent last) {scope : List String}
    (fresh : ∀ name ∈ scope, ¬ IsLocal frame.resolution.parameters name) :
    WellScoped scope (frame.pieces query last) := by
  obtain ⟨declares, loops⟩ := names_framePieces frame query silent
  have once : (frame.collections.map (·.name)).Nodup := distinct.sublist (List.filter_sublist.map _)
  refine wellScoped_of_apart ?_ ?_ fun name isLocal inScope => fresh name inScope ((isLocal_iff silent).mpr isLocal)
  · rw [declares]
    exact nodup_createdLocals once
  · -- the variable of a loop has an ending that no other variable has
    intro name within
    rw [loops, List.mem_append, or_self] at within
    obtain ⟨collection, _, rfl⟩ := List.mem_map.mp within
    rw [declares, List.mem_cons, mem_createdLocals_iff]
    rintro (same | same | ⟨_, same⟩ | ⟨other, _, same⟩)
    · exact (made_ne_fixed collection.name "em" (by decide)).2 same
    · exact (made_ne_fixed collection.name "q" (by decide)).2 same
    · exact (made_ne_fixed collection.name "queryBuilder" (by decide)).2 same
    · exact element_ne_count collection.name other.name same.symm

theorem wellScoped_parameters_iff (frame : Frame) (distinct : frame.resolution.parameterNames.Nodup)
    (query : TypedQuery) {last : Statement} (silent : Silent last) :
    WellScoped frame.resolution.parameterNames (frame.pieces query last) ↔
      ∀ parameter ∈ frame.resolution.parameters, ¬ IsLocal frame.resolution.parameters parameter.name := by
  constructor
  · intro wellScoped parameter given isLocal
    exact wellScoped.fresh _ ((isLocal_iff silent).mp isLocal) (List.mem_map_of_mem given)
  · intro clear
    refine wellScoped_framePieces frame distinct query silent fun name listed => ?_
    obtain ⟨parameter, given, rfl⟩ := List.mem_map.mp listed
    exact clear parameter given

/-! ## Fields that clash with nothing -/

/-- Whether a name ends like those that are made from collections. -/
def EndsLikeLocal (name : String) : Prop :=
  "Idx".toList <:+ name.toList ∨ "Item".toList <:+ name.toList

/-- Whether a field has neither the name of a local nor the ending of one, and a spelling without such an
ending. -/
structure KeepsClear (field : Field) : Prop where
  other : field.name ∉ ["em", "queryBuilder", "q"]
  name : ¬ EndsLikeLocal field.name
  spelling : ¬ EndsLikeLocal field.spelling

theorem IsLocal.fixed_or_ends {parameters : List Parameter} {name : String} (isLocal : IsLocal parameters name) :
    name ∈ ["em", "queryBuilder", "q"] ∨ EndsLikeLocal name := by
  cases isLocal with
  | manager | query | builder => exact .inl (by decide)
  | @count collection => exact .inr (.inl ⟨collection.name.toList, String.toList_append.symm⟩)
  | @element collection => exact .inr (.inr ⟨collection.name.toList, String.toList_append.symm⟩)

theorem suffix_of_suffix_append {letter : Char} {ending front text : List Char} (absent : letter ∉ front)
    (ends : letter :: ending <:+ front ++ text) : letter :: ending <:+ text := by
  obtain inText | longer := List.suffix_or_suffix_of_suffix ends (List.suffix_append front text)
  · exact inText
  · obtain ⟨before, split⟩ := ends
    obtain ⟨own, whole⟩ := longer
    cases own with
    | nil => exact ⟨[], whole.symm⟩
    | cons first own =>
      -- the ending would begin in the front
      obtain ⟨rfl, _⟩ := List.cons.inj whole
      rw [← whole, ← List.append_assoc] at split
      have front_eq := List.append_cancel_right split
      exact absurd (front_eq ▸ List.mem_append_right before List.mem_cons_self) absent

theorem EndsLikeLocal.of_append {front text : String} (absent : 'I' ∉ front.toList)
    (ends : EndsLikeLocal (front ++ text)) : EndsLikeLocal text := by
  rw [EndsLikeLocal, String.toList_append] at ends
  exact ends.imp (suffix_of_suffix_append absent) (suffix_of_suffix_append absent)

/-- The ends of a range are no locals unless the spelling has the ending of one. -/
theorem not_isLocal_of_bound {bound : String} (bounds : bound ∈ ["min", "max"]) {spelling : String}
    (clear : ¬ EndsLikeLocal spelling) (parameters : List Parameter) : ¬ IsLocal parameters (bound ++ spelling) := by
  have letters : bound.toList.head? = some 'm' ∧ 'I' ∉ bound.toList := by
    revert bound
    decide
  obtain ⟨first, absent⟩ := letters
  intro isLocal
  obtain fixed | ends := isLocal.fixed_or_ends
  · have begins : (bound ++ spelling).toList.head? = some 'm' := by
      rw [String.toList_append, List.head?_append, first, Option.some_or]
    have otherwise : ∀ fixed ∈ ["em", "queryBuilder", "q"], fixed.toList.head? ≠ some 'm' := by decide
    exact otherwise _ fixed begins
  · exact clear (ends.of_append absent)

theorem not_isLocal_of_keepsClear {words : List Word} (clear : ∀ field, .field field ∈ words → KeepsClear field) :
    ∀ parameter ∈ Query.parameters words, ¬ IsLocal (Query.parameters words) parameter.name := by
  intro parameter present
  obtain ⟨field, inWords, _, named⟩ := Query.exists_field_of_mem_parameters present
  obtain ⟨other, name, spelling⟩ := clear field inWords
  obtain named | named | named := named <;> rw [named]
  · exact fun isLocal => isLocal.fixed_or_ends.elim other name
  · exact not_isLocal_of_bound (by decide) spelling _
  · exact not_isLocal_of_bound (by decide) spelling _

/-! ## Methods of finders -/

/-- A method whose body is made of the given pieces, and the names in it. -/
structure Scoped (pieces : List Piece) (method : QueryMethod) : Prop where
  body : method.body = pieces.flatMap Piece.lines
  locals : ∀ name, name ∈ declared pieces ∨ name ∈ inner pieces ↔ IsLocal method.parameters name
  /-- No local has the name of another one in whose scope it is. -/
  apart : WellScoped [] pieces
  /-- A clash is one between a parameter and a local. -/
  clear_iff : WellScoped (method.parameters.map (·.name)) pieces ↔
    ∀ parameter ∈ method.parameters, ¬ IsLocal method.parameters parameter.name

theorem scoped_frame {frame : Frame} (distinct : frame.resolution.parameterNames.Nodup) {query : TypedQuery}
    {last : Statement} (silent : Silent last) {method : QueryMethod}
    (body : method.body = (frame.statements query last).flatMap Statement.lines)
    (given : method.parameters = frame.resolution.parameters) : Scoped (frame.pieces query last) method := by
  refine ⟨body.trans (lines_framePieces frame query last).symm, fun name => ?_, ?_, ?_⟩
  · rw [given]
    exact (isLocal_iff silent).symm
  · exact wellScoped_framePieces frame distinct query silent nofun
  · rw [given]
    exact wellScoped_parameters_iff frame distinct query silent

/-- The locals of the methods of a finder never clash with each other, and with parameters only if a
parameter has the name of one. -/
theorem scopes_of_methods (entity : Entity) (preferences : Preferences) {finder : String}
    (requested : finder ∈ entity.requestedFinders) {resolution : Resolution}
    (resolved : outcome entity preferences finder = some (.ok resolution))
    (distinct : resolution.parameterNames.Nodup) :
    let frame : Frame := ⟨entity.type, preferences.entityAlias, resolution⟩
    (∃ own, Plan.ofFinder entity preferences finder = some own ∧
      own.methods = frame.selectMethod finder :: (if preferences.countQueries then [frame.countMethod finder] else []) ∧
      Introduces entity preferences own.methods) ∧
    Scoped (frame.pieces frame.selectQuery .returnQuery) (frame.selectMethod finder) ∧
    Scoped (frame.pieces frame.countQuery .returnResult) (frame.countMethod finder) ∧
    ((∀ field ∈ entity.body.fields, KeepsClear field) →
      ∀ parameter ∈ resolution.parameters, ¬ IsLocal resolution.parameters parameter.name) := by
  intro frame
  refine ⟨?_, ?_, ?_, ?_⟩
  · have planned := ofFinder_of_resolved resolved
    refine ⟨_, planned, ?_, introduces_of_planned requested planned⟩
    rw [methodsOf]
    cases preferences.countQueries <;> rfl
  · exact scoped_frame distinct ⟨rfl, rfl⟩ rfl rfl
  · exact scoped_frame distinct ⟨rfl, rfl⟩ rfl rfl
  · intro clear
    have parameters : resolution.parameters = Query.parameters resolution.words := by
      rw [Query.eq_ofWords_of_resolve resolved, Resolution.ofWords]
    rw [parameters]
    exact not_isLocal_of_keepsClear fun field present => clear field (Query.mem_fields_of_resolve resolved present)

/-- Neither the parameters `name` and `tags` nor the locals of `findPeopleByNameAndTags` clash. -/
theorem scopes_of_methods_tagged : "findPeopleByNameAndTags" ∈ taggedEntity.requestedFinders ∧
    ∃ resolution : Resolution,
      outcome taggedEntity {} "findPeopleByNameAndTags" = some (.ok resolution) ∧
      resolution.parameterNames.Nodup ∧
      (∀ field ∈ taggedEntity.body.fields, KeepsClear field) ∧
      WellScoped ["name", "tags"] (Frame.pieces ⟨taggedEntity.type, "o", resolution⟩
        (Frame.selectQuery ⟨taggedEntity.type, "o", resolution⟩) .returnQuery) ∧
      IsLocal resolution.parameters "tagsIdx" ∧ IsLocal resolution.parameters "tagsItem" := by
  have requested : "findPeopleByNameAndTags" ∈ taggedEntity.requestedFinders := by decide
  have distinct : (Resolution.ofWords (joinedPhrase ⟨.and, rfl⟩).words "Person" "o").parameterNames.Nodup := by decide
  have clear : ∀ field ∈ taggedEntity.body.fields, KeepsClear field := by
    intro field present
    have listed : field ∈ [nameField, tagsField] := present
    obtain rfl | rfl := List.mem_pair.mp listed
    · exact ⟨by decide, by unfold EndsLikeLocal; decide, by unfold EndsLikeLocal; decide⟩
    · exact ⟨by decide, by unfold EndsLikeLocal; decide, by unfold EndsLikeLocal; decide⟩
  obtain ⟨_, selects, _, keeps⟩ :=
    scopes_of_methods taggedEntity {} requested resolves_nameAndTags.resolved distinct
  have counts := (selects.locals "tagsIdx").mp (.inl (by decide))
  have elements := (selects.locals "tagsItem").mp (.inr (by decide))
  exact ⟨requested, _, resolves_nameAndTags.resolved, distinct, clear, selects.clear_iff.mpr (keeps clear), counts,
    elements⟩

/-! ## A field with the name of a local -/

def queryField : Field :=
  ⟨"q", .named "java.lang.String", false, false, []⟩

def queryFieldEntity : Entity where
  annotations := [.written "@RooJpaActiveRecord" [("finders", .text "findPeopleByQ")]]
  body := .bean (.named "com.example.Person") [queryField]

/-- A parameter that is named after a field may have the name of a local. -/
theorem not_every_parameter_apart :
    ¬ ∀ (entity : Entity) (preferences : Preferences),
      (∀ field ∈ entity.body.fields, Java.isPlainIdentifier field.name = true) →
      ∀ finder ∈ entity.requestedFinders, ∀ resolution : Resolution,
        outcome entity preferences finder = some (.ok resolution) → resolution.parameterNames.Nodup →
          let frame : Frame := ⟨entity.type, preferences.entityAlias, resolution⟩
          WellScoped resolution.parameterNames (frame.pieces frame.selectQuery .returnQuery) := by
  intro apart
  have resolved : outcome queryFieldEntity {} "findPeopleByQ" =
      some (.ok (Resolution.ofWords [.field queryField] "Person" "o")) :=
    Query.resolve_of_read (Finder.read_eq_ok_of_wordsWithin 2 (by decide) (by with_unfolding_all rfl)) "Person" "o"
  have plain : ∀ field ∈ queryFieldEntity.body.fields, Java.isPlainIdentifier field.name = true := by decide
  have apart := apart queryFieldEntity {} plain "findPeopleByQ" (by decide) _ resolved (by decide)
  have queries : "q" ∈ declared (Frame.pieces ⟨queryFieldEntity.type, "o", .ofWords [.field queryField] "Person" "o"⟩
      (Frame.selectQuery ⟨queryFieldEntity.type, "o", .ofWords [.field queryField] "Person" "o"⟩) .returnQuery) := by
    decide
  exact apart.fresh "q" (.inl queries) (by decide)

end QueryByName.Method
