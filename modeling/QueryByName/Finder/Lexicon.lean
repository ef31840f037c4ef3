import QueryByName.Finder.Word
import QueryByName.Java.ClassBody
import QueryByName.Ordered

/-!
# The fields a finder name may mention

A name may mention the fields that a setter sets, unless they hold maps.  They are kept in
matching order; of fields with one spelling the last one set stands for all.
-/

namespace QueryByName.Java.ClassBody

open QueryByName.Finder (fieldOrder)

/-- The fields that names may mention, in the order of their setters. -/
def mentionable (body : ClassBody) : List Field :=
  body.settable.filter (!·.type.isMap)

/-- The fields that names may mention, one for each spelling, in matching order. -/
def lexicon (body : ClassBody) : List Field :=
  Ordered.ofList fieldOrder body.mentionable

end QueryByName.Java.ClassBody
