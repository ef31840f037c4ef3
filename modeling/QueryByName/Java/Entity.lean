import QueryByName.Java.ClassBody
import QueryByName.Text.Inflection
import QueryByName.Text.Trim

/-!
# Entities

An entity is a stored class.  Its annotations may give it a plural and may ask for finders
by name.
-/

namespace QueryByName.Java

/-- A stored class with the annotations on it. -/
structure Entity where
  annotations : List Annotation
  body : ClassBody

namespace Entity

def type (entity : Entity) : TypeExpr :=
  entity.body.owner

def simpleName (entity : Entity) : String :=
  entity.type.simpleName

def annotation? (entity : Entity) (name : String) : Option Annotation :=
  entity.annotations.find? (·.isNamed name)

/-- The plural that an annotation sets, unless it is blank. -/
def givenPlural? (entity : Entity) : Option String :=
  ((entity.annotation? "RooPlural").bind (·.attribute? "value")).bind fun value =>
    value.text?.bind fun text => if Text.isBlank text then none else some (Text.trimmed text)

/-- The plural set by annotation, or else the English plural of the simple name. -/
def plural (entity : Entity) : String :=
  entity.givenPlural?.getD (Text.plural entity.simpleName)

def finderAnnotations : List String :=
  ["RooJpaActiveRecord", "RooEntity", "RooJpaEntity"]

def requestedFinders (entity : Entity) : List String :=
  finderAnnotations.flatMap fun name =>
    (((entity.annotation? name).bind (·.attribute? "finders")).map (·.texts)).getD []

end Entity

end QueryByName.Java
