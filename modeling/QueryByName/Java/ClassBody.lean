import QueryByName.Java.Method

/-!
# Members of a class

The fields and methods of a class, and the fields that its setters reach.
-/

namespace QueryByName.Java

/-- The members of a class, declared and inherited. -/
structure ClassBody where
  owner : TypeExpr
  fields : List Field
  methods : List Method

namespace ClassBody

/-- A bean: a setter for every field that is not static, and no other method. -/
def bean (owner : TypeExpr) (fields : List Field) : ClassBody where
  owner
  fields
  methods := (fields.filter (!·.isStatic)).map Method.setterOf

def field? (body : ClassBody) (name : String) : Option Field :=
  body.fields.find? (·.name == name)

def setters (body : ClassBody) : List Method :=
  body.methods.filter Method.isSetter

/-- The field that a setter sets: the one named like the property, or else the one named like
the parameter. -/
def fieldSetBy? (body : ClassBody) (setter : Method) : Option Field :=
  ((propertySetBy? setter.name).bind body.field?).or
    (setter.parameters.head?.bind fun parameter => body.field? parameter.name)

/-- The fields in a list, without those whose name stands there before. -/
def firstOfEachName : List Field → List Field
  | [] => []
  | field :: rest => field :: (firstOfEachName rest).filter (·.name != field.name)

/-- The fields that some setter sets, in the order of the setters. -/
def settable (body : ClassBody) : List Field :=
  firstOfEachName (body.setters.filterMap body.fieldSetBy?)

end ClassBody

end QueryByName.Java
