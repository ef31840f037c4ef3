import QueryByName.Finder.Preferences
import QueryByName.Java.Entity
import QueryByName.Method.Body

/-!
# The methods that an entity asks for

Every finder that the annotations of an entity ask for becomes methods or, if its name cannot
be read, a report.  A name that is asked for again counts once.  There is a plan only if the
scan of every such name ends.
-/

namespace QueryByName.Method

open QueryByName.Finder (Preferences Refusal)
open QueryByName.Java (Entity)
open QueryByName.Query (Resolution)

inductive Severity where
  | error
  | warning
  | information
deriving DecidableEq

structure Report where
  severity : Severity
  code : String
  message : String
deriving DecidableEq

def Report.ofRefusal (refusal : Refusal) : Report :=
  ⟨.error, refusal.code, refusal.message⟩

/-- The methods to write for an entity, and what went wrong on the way. -/
structure Plan where
  methods : List QueryMethod
  reports : List Report

namespace Plan

def empty : Plan :=
  ⟨[], []⟩

def append (left right : Plan) : Plan :=
  ⟨left.methods ++ right.methods, left.reports ++ right.reports⟩

/-- The plan that a requested finder adds, given what its name resolves to. -/
def ofOutcome (entity : Entity) (preferences : Preferences) (finder : String) :
    Except Refusal Resolution → Plan
  | .error refusal => ⟨[], [Report.ofRefusal refusal]⟩
  | .ok resolution =>
    let frame : Frame := ⟨entity.type, preferences.entityAlias, resolution⟩
    ⟨frame.selectMethod finder ::
      if preferences.countQueries then [frame.countMethod finder] else [], []⟩

def ofFinder (entity : Entity) (preferences : Preferences) (finder : String) : Option Plan :=
  (Query.resolve entity.body finder entity.plural entity.simpleName preferences.entityAlias).map
    (ofOutcome entity preferences finder)

/-- The plan for a row of finders, each after the other. -/
def ofFinders (entity : Entity) (preferences : Preferences) (finders : List String) : Option Plan :=
  (finders.mapM (ofFinder entity preferences)).map fun plans => plans.foldr append empty

/-- The plan for all the finders that an entity asks for, in the order of the requests. -/
def ofEntity (entity : Entity) (preferences : Preferences) : Option Plan :=
  ofFinders entity preferences entity.requestedFinders.eraseDups

end Plan

end QueryByName.Method
