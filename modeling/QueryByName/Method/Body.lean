import QueryByName.Method.QueryMethod
import QueryByName.Query.Resolution

/-!
# Bodies of finder methods

The two methods that a resolved finder gives rise to: one returns the query for the entities,
the other the result of the counting query.  Both check their arguments, open the patterns,
create the query and bind its parameters, and they differ in the query and in what they
return.  Collection arguments are matched element by element, so their tests are appended
when the method runs.
-/

namespace QueryByName.Method

open QueryByName.Finder (Word)
open QueryByName.Java (Parameter TypeExpr)
open QueryByName.Query (Resolution)

/-- The names of the fields that a pattern keyword follows at once. -/
def patternFields : List Word → List String
  | [] => []
  | .field field :: rest =>
    if (rest.head?.bind Word.keyword?).any (·.ignoresCase) then field.name :: patternFields rest
    else patternFields rest
  | .keyword _ :: rest => patternFields rest

/-- The checks of the arguments; primitive ones are never missing. -/
def argumentChecks (parameters : List Parameter) : List Statement :=
  (parameters.filter (!·.type.isPrimitive)).map .requireArgument

def patternSteps (words : List Word) (parameters : List Parameter) : List Statement :=
  (parameters.filter fun parameter => (patternFields words).contains parameter.name).map
    fun parameter => .openPattern parameter.name

/-- A query with the type of its object and the class of its results. -/
structure TypedQuery where
  text : String
  resultType : TypeExpr
  resultClass : String

def TypedQuery.type (query : TypedQuery) : TypeExpr :=
  ⟨"javax.persistence.TypedQuery", [query.resultType]⟩

/-- The steps that create the query, from a fixed text if no argument is a collection. -/
def creationSteps (query : TypedQuery) (entityAlias : String) : List Parameter → List Statement
  | [] => [.createQuery query.type query.text query.resultClass]
  | collections =>
    [.beginQuery query.text]
      ++ (collections.flatMap fun parameter =>
        [.declareCount parameter.name, .appendTests parameter entityAlias])
      ++ [.createBuiltQuery query.type query.resultClass]

/-- The steps that bind the parameters of the query: single values first, then the elements
of collections. -/
def bindingSteps (values collections : List Parameter) : List Statement :=
  (values.map fun parameter => .bindValue parameter.name)
    ++ collections.flatMap fun parameter =>
      [.resetCount parameter.name, .bindElements parameter]

/-- What the methods of one resolved finder have in common. -/
structure Frame where
  entityType : TypeExpr
  entityAlias : String
  resolution : Resolution

namespace Frame

def entityName (frame : Frame) : String :=
  frame.entityType.simpleName

def collections (frame : Frame) : List Parameter :=
  frame.resolution.parameters.filter (·.type.isCollection)

def values (frame : Frame) : List Parameter :=
  frame.resolution.parameters.filter (!·.type.isCollection)

/-- The body of a method that runs a query and ends with the given step. -/
def statements (frame : Frame) (query : TypedQuery) (last : Statement) : List Statement :=
  argumentChecks frame.resolution.parameters
    ++ patternSteps frame.resolution.words frame.resolution.parameters
    ++ [.obtainManager frame.entityName]
    ++ creationSteps query frame.entityAlias frame.collections
    ++ bindingSteps frame.values frame.collections
    ++ [last]

def selectQuery (frame : Frame) : TypedQuery :=
  ⟨frame.resolution.query, frame.entityType, frame.entityName⟩

def countQuery (frame : Frame) : TypedQuery :=
  ⟨frame.resolution.countQuery, .named "java.lang.Long", "Long"⟩

def selectMethod (frame : Frame) (name : String) : QueryMethod where
  name
  result := frame.selectQuery.type
  parameters := frame.resolution.parameters
  isStatic := true
  body := (frame.statements frame.selectQuery .returnQuery).flatMap Statement.lines

def countMethod (frame : Frame) (name : String) : QueryMethod where
  name := "count" ++ Text.capitalized name
  result := .named "java.lang.Long"
  parameters := frame.resolution.parameters
  isStatic := true
  body := (frame.statements frame.countQuery .returnResult).flatMap Statement.lines

end Frame

end QueryByName.Method
