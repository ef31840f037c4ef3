import QueryByName.Finder.Lexicon
import QueryByName.Finder.Reading

/-!
# The finder names of a class

The names that combine up to a number of fields.  The first layer names one field; every
further layer joins one more field, whose spelling does not yet occur, to the names of the
layer before.  A layer without names ends the growth, so the number of layers does not
depend on how deep the caller wants to go.
-/

namespace QueryByName.Java.Field

open QueryByName.Finder (Keyword)

/-- Whether names may be built from the field, given the names of the fields to leave out. -/
def isCandidate (exclusions : List String) (field : Field) : Bool :=
  !exclusions.contains field.name && !field.type.isMap && !field.isTransient
    && !field.isIdentifier && !field.isVersion && !field.isCollection

/-- The field alone and with each keyword offered for its type. -/
def stubs (field : Field) : List String :=
  ((Keyword.forType field.type).map (field.spelling ++ ·.spelling)) ++ [field.spelling]

end QueryByName.Java.Field

namespace QueryByName.Finder

open QueryByName.Java (Field ClassBody)

def candidates (body : ClassBody) (exclusions : List String) : List Field :=
  body.settable.filter (·.isCandidate exclusions)

def namesOf (names : List String) : List String :=
  Ordered.ofList compare names

def firstLayer (lead : String) (fields : List Field) : List String :=
  namesOf (fields.flatMap fun field => field.stubs.map (lead ++ ·))

/-- The names that join one more field to a name. -/
def extensions (fields : List Field) (name : String) : List String :=
  fields.flatMap fun field =>
    if Text.contains field.spelling name then []
    else
      [Keyword.and, Keyword.or].flatMap fun connective =>
        field.stubs.map (name ++ connective.spelling ++ ·)

/-- The names that join one more field to one of the given names. -/
def nextLayer (fields : List Field) (layer : List String) : List String :=
  namesOf (layer.flatMap (extensions fields))

/-- The names of the given layer and of those after it, up to a number of layers. -/
def layersFrom (fields : List Field) : Nat → List String → List String
  | 0, _ => []
  | depth + 1, layer =>
    if layer.isEmpty then [] else layer ++ layersFrom fields depth (nextLayer fields layer)

/-- The names of finders that combine up to `depth` fields, in increasing order. -/
def names (body : ClassBody) (plural : String) (depth : Nat) (exclusions : List String) :
    List String :=
  let fields := candidates body exclusions
  namesOf (layersFrom fields depth (firstLayer (lead plural) fields))

end QueryByName.Finder
