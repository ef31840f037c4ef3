import QueryByName.Java.ClassBody
import QueryByName.Ordered

/-!
# Preferences for finders

What callers may choose about finders, and the fields that finders leave out whatever the
caller chooses.
-/

namespace QueryByName.Finder

open QueryByName.Java (ClassBody)

/-- The alias of the entity in queries where none is chosen. -/
def standardAlias : String :=
  "o"

/-- The choices of a caller.  The names of excluded fields are in increasing order. -/
structure Preferences where
  depth : Nat := 1
  entityAlias : String := standardAlias
  countQueries : Bool := true
  exclusions : List String := []
deriving DecidableEq

def managerTypes : List String :=
  ["javax.persistence.EntityManager", "jakarta.persistence.EntityManager"]

/-- The names of the fields that identify, version or manage entities, in increasing
order. -/
def standingExclusions (body : ClassBody) : List String :=
  Ordered.ofList compare <|
    (body.fields.filter fun field =>
      field.isIdentifier || field.isVersion || managerTypes.contains field.type.name).map (·.name)

end QueryByName.Finder
