import QueryByName.Java.Method
import QueryByName.Java.StringLiteral

/-!
# Statements of finder methods

What the body of a finder method does, step by step, and the lines of Java that each step is
written as.  Lines inside a block are indented by four more spaces.
-/

namespace QueryByName.Method

open QueryByName.Java (Parameter StringLiteral.escaped TypeExpr)

inductive Statement where
  /-- Refuses a missing argument, and an empty one if it is a text. -/
  | requireArgument (parameter : Parameter)
  /-- Turns an argument into a pattern that is open at both ends. -/
  | openPattern (name : String)
  /-- Obtains the manager of the entities of a class. -/
  | obtainManager (entityName : String)
  /-- Creates the query from a fixed text. -/
  | createQuery (queryType : TypeExpr) (query resultClass : String)
  /-- Begins a query text that is put together when the method runs. -/
  | beginQuery (query : String)
  /-- Declares the count of the elements of a collection argument. -/
  | declareCount (name : String)
  /-- Appends one membership test for each element of a collection argument. -/
  | appendTests (parameter : Parameter) (entityAlias : String)
  /-- Creates the query from the text put together so far. -/
  | createBuiltQuery (queryType : TypeExpr) (resultClass : String)
  /-- Binds a parameter to its argument. -/
  | bindValue (name : String)
  /-- Sets the count of the elements of a collection argument back. -/
  | resetCount (name : String)
  /-- Binds one parameter for each element of a collection argument. -/
  | bindElements (parameter : Parameter)
  /-- Returns the query. -/
  | returnQuery
  /-- Returns the only result of the query. -/
  | returnResult

def elementTypeName (parameter : Parameter) : String :=
  match parameter.type.arguments with
  | [] => "Object"
  | element :: _ => element.source

def missingTest (parameter : Parameter) : String :=
  if parameter.type.isString then
    parameter.name ++ " == null || " ++ parameter.name ++ ".length() == 0"
  else parameter.name ++ " == null"

def loopHead (parameter : Parameter) : String :=
  "for (" ++ elementTypeName parameter ++ " " ++ parameter.name ++ "Item : " ++ parameter.name
    ++ ") \x7b"

namespace Statement

def lines : Statement → List String
  | requireArgument parameter =>
    ["if (" ++ missingTest parameter ++ ") throw new IllegalArgumentException(\"The "
      ++ parameter.name ++ " argument is required\");"]
  | openPattern name =>
    [name ++ " = " ++ name ++ ".replace('*', '%');",
      "if (" ++ name ++ ".charAt(0) != '%') \x7b",
      "    " ++ name ++ " = \"%\" + " ++ name ++ ";",
      "\x7d",
      "if (" ++ name ++ ".charAt(" ++ name ++ ".length() - 1) != '%') \x7b",
      "    " ++ name ++ " = " ++ name ++ " + \"%\";",
      "\x7d"]
  | obtainManager entityName => ["EntityManager em = " ++ entityName ++ ".entityManager();"]
  | createQuery queryType query resultClass =>
    [queryType.source ++ " q = em.createQuery(\"" ++ StringLiteral.escaped query ++ "\", "
      ++ resultClass ++ ".class);"]
  | beginQuery query =>
    ["StringBuilder queryBuilder = new StringBuilder(\"" ++ StringLiteral.escaped query ++ "\");"]
  | declareCount name => ["int " ++ name ++ "Idx = 0;"]
  | appendTests parameter entityAlias =>
    [loopHead parameter,
      "    queryBuilder.append(queryBuilder.indexOf(\" WHERE \") < 0 ? \" WHERE \" : \" AND \");",
      "    queryBuilder.append(\":" ++ parameter.name ++ "_item\").append(" ++ parameter.name
        ++ "Idx++).append(\" MEMBER OF " ++ entityAlias ++ "." ++ parameter.name ++ "\");",
      "\x7d"]
  | createBuiltQuery queryType resultClass =>
    [queryType.source ++ " q = em.createQuery(queryBuilder.toString(), " ++ resultClass
      ++ ".class);"]
  | bindValue name => ["q.setParameter(\"" ++ name ++ "\", " ++ name ++ ");"]
  | resetCount name => [name ++ "Idx = 0;"]
  | bindElements parameter =>
    [loopHead parameter,
      "    q.setParameter(\"" ++ parameter.name ++ "_item\" + " ++ parameter.name ++ "Idx++, "
        ++ parameter.name ++ "Item);",
      "\x7d"]
  | returnQuery => ["return q;"]
  | returnResult => ["return q.getSingleResult();"]

end Statement

end QueryByName.Method
