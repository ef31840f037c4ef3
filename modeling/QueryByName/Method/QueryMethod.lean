import QueryByName.Method.Statement

/-!
# Methods to be written

A method with a body of lines, and its source text.
-/

namespace QueryByName.Method

open QueryByName.Java (Parameter TypeExpr)

/-- A public method.  Lines of nested blocks carry their own indentation. -/
structure QueryMethod where
  name : String
  result : TypeExpr
  parameters : List Parameter
  isStatic : Bool
  body : List String

namespace QueryMethod

def declaration (parameter : Parameter) : String :=
  parameter.type.source ++ " " ++ parameter.name

def head (method : QueryMethod) : String :=
  "public " ++ (if method.isStatic then "static " else "") ++ method.result.source ++ " "
    ++ method.name ++ "("
    ++ String.intercalate ", " (method.parameters.map declaration) ++ ") \x7b\n"

/-- A line of the body with its indentation and its end. -/
def bodyLine (line : String) : String :=
  "    " ++ line ++ "\n"

def source (method : QueryMethod) : String :=
  method.head ++ String.join (method.body.map bodyLine) ++ "\x7d"

end QueryMethod

end QueryByName.Method
