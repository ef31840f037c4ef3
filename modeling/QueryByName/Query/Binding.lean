import QueryByName.Finder.Word
import QueryByName.Java.Method

/-!
# The parameters of a query

Each field of a finder is bound to one parameter of its name and type, unless the word right
after it asks for a range, which takes two parameters, or for a missing value, which takes
none.
-/

namespace QueryByName.Query

open QueryByName.Finder (Keyword Word)
open QueryByName.Java (Field Parameter)

/-- The parameters of a field before the keyword that follows it at once, if there is one. -/
def fieldParameters (field : Field) : Option Keyword → List Parameter
  | some .isNull => []
  | some .isNotNull => []
  | some .between =>
    [⟨"min" ++ field.spelling, field.type⟩, ⟨"max" ++ field.spelling, field.type⟩]
  | _ => [⟨field.name, field.type⟩]

def parameters : List Word → List Parameter
  | [] => []
  | .field field :: rest =>
    fieldParameters field (rest.head?.bind Word.keyword?) ++ parameters rest
  | .keyword _ :: rest => parameters rest

end QueryByName.Query
