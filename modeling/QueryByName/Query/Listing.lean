import QueryByName.Finder.Derivation
import QueryByName.Finder.Preferences
import QueryByName.Java.Entity
import QueryByName.Query.Resolution

/-!
# Listing the finders of an entity

Every name that can be built for an entity, each with its query or with the cause for which
it cannot be read back.  A name whose scan does not end leaves an entity without a listing.
-/

namespace QueryByName.Query

open QueryByName.Finder (Preferences Refusal names standingExclusions)
open QueryByName.Java (Entity)

/-- A name with what became of it. -/
structure ListedFinder where
  name : String
  outcome : Except Refusal Resolution

/-- The names of the fields to leave out, under the given preferences. -/
def allExclusions (entity : Entity) (preferences : Preferences) : List String :=
  standingExclusions entity.body ++ preferences.exclusions

/-- A name with what it resolves to. -/
def listed? (entity : Entity) (preferences : Preferences) (name : String) : Option ListedFinder :=
  (resolve entity.body name entity.plural entity.simpleName preferences.entityAlias).map
    fun outcome => { name, outcome }

/-- The finders that can be built for an entity, in the order of their names. -/
def listing (entity : Entity) (preferences : Preferences) : Option (List ListedFinder) :=
  (names entity.body entity.plural preferences.depth (allExclusions entity preferences)).mapM
    (listed? entity preferences)

end QueryByName.Query
