import QueryByName.Java.Field
import QueryByName.Text.Capital
import QueryByName.Unicode.Uppercase

/-!
# Methods and setters

A setter is a public instance method with one parameter, named `set` and then a name that
begins with an uppercase letter.  The property it sets is that name with a small first
letter.
-/

namespace QueryByName.Java

open QueryByName.Unicode (isUppercase)

structure Parameter where
  name : String
  type : TypeExpr
deriving DecidableEq

structure Method where
  name : String
  result : TypeExpr
  parameters : List Parameter
  isPublic : Bool
  isStatic : Bool

/-- The property that a method of the given name sets, if the name is that of a setter. -/
def propertySetBy? (methodName : String) : Option String :=
  match Text.afterLead? "set" methodName with
  | some rest => if rest.toList.head?.any isUppercase then some (Text.uncapitalized rest) else none
  | none => none

namespace Method

def isSetter (method : Method) : Bool :=
  method.isPublic && !method.isStatic && method.parameters.length == 1
    && (propertySetBy? method.name).isSome

def setterOf (field : Field) : Method where
  name := "set" ++ Text.capitalized field.name
  result := .named "void"
  parameters := [⟨field.name, field.type⟩]
  isPublic := true
  isStatic := false

end Method

end QueryByName.Java
