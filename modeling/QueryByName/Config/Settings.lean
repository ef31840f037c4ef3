import QueryByName.Finder.Preferences

/-!
# Settings

What a configuration sets: how finders are built and how the program logs.  Every setting has
a standard value.
-/

namespace QueryByName.Config

/-- The settings of finders, as written: they may hold values that cannot be used. -/
structure FinderSettings where
  depth : Nat := 1
  entityAlias : String := Finder.standardAlias
  countQueries : Bool := true
  exclude : List String := []
deriving DecidableEq

def standardLevel : String :=
  "info"

structure LogSettings where
  level : String := standardLevel
  json : Bool := false
deriving DecidableEq

structure Settings where
  finder : FinderSettings := {}
  log : LogSettings := {}
deriving DecidableEq

end QueryByName.Config
