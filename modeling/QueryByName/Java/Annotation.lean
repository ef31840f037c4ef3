import QueryByName.Text.Affix

/-!
# Annotations

An annotation has a name, qualified or not, and attributes with values.
-/

namespace QueryByName.Java

inductive AttributeValue where
  | text (value : String)
  | flag (value : Bool)
  | number (value : Int)
  | list (values : List AttributeValue)

namespace AttributeValue

/-- The text of a value that is a text. -/
def text? : AttributeValue → Option String
  | text value => some value
  | _ => none

mutual

/-- The texts in a value, those inside lists included, from left to right. -/
def texts : AttributeValue → List String
  | text value => [value]
  | flag _ => []
  | number _ => []
  | list values => allTexts values

def allTexts : List AttributeValue → List String
  | [] => []
  | value :: values => texts value ++ allTexts values

end

end AttributeValue

/-- An annotation; attributes keep the order in which they were written. -/
structure Annotation where
  name : String
  attributes : List (String × AttributeValue)

namespace Annotation

/-- An annotation under a name that may be written with its sign `@`. -/
def written (name : String) (attributes : List (String × AttributeValue)) : Annotation :=
  ⟨(Text.afterLead? "@" name).getD name, attributes⟩

def attribute? (mark : Annotation) (name : String) : Option AttributeValue :=
  (mark.attributes.find? (·.1 == name)).map (·.2)

/-- Whether the annotation goes by a name.  Only simple names count, so packages may be left
out on either side. -/
def isNamed (mark : Annotation) (name : String) : Bool :=
  Text.afterLast '.' mark.name == Text.afterLast '.' name

end Annotation

end QueryByName.Java
