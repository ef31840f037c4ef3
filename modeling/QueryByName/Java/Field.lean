import QueryByName.Java.Annotation
import QueryByName.Java.TypeExpr

/-!
# Fields

A field of a class and the roles that its modifiers, annotations and type give it.
-/

namespace QueryByName.Java

structure Field where
  name : String
  type : TypeExpr
  isStatic : Bool
  /-- Whether the field carries the modifier `transient`. -/
  transientModifier : Bool
  annotations : List Annotation

namespace Field

def hasAnnotation (field : Field) (name : String) : Bool :=
  field.annotations.any (·.isNamed name)

/-- Whether the field is left out of storage, by modifier or by annotation. -/
def isTransient (field : Field) : Bool :=
  field.transientModifier || field.hasAnnotation "Transient"

def isIdentifier (field : Field) : Bool :=
  field.hasAnnotation "Id" || field.hasAnnotation "EmbeddedId"

def isVersion (field : Field) : Bool :=
  field.hasAnnotation "Version"

def isCollection (field : Field) : Bool :=
  field.type.isCollection

/-- The type of the elements of a collection that names it. -/
def elementType? (field : Field) : Option TypeExpr :=
  if field.isCollection then field.type.arguments.head? else none

end Field

end QueryByName.Java
