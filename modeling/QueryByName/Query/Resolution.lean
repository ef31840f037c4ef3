import QueryByName.Finder.Reading
import QueryByName.Query.Binding
import QueryByName.Query.Condition

/-!
# Queries of finders

The query text of a row of words, its counting form, and the resolution of a finder name to
both together with the parameters they need.
-/

namespace QueryByName.Query

open QueryByName.Finder (Refusal Word)
open QueryByName.Java (ClassBody Parameter)

def selectLead (entityAlias : String) : String :=
  "SELECT " ++ entityAlias ++ " FROM"

def countLead (entityAlias : String) : String :=
  "SELECT COUNT(" ++ entityAlias ++ ") FROM"

/-- The query for the entities that meet the condition of a row of words. -/
def selectText (words : List Word) (entityName entityAlias : String) : String :=
  let restriction := condition entityAlias words
  selectLead entityAlias ++ " " ++ entityName ++ " AS " ++ entityAlias
    ++ if restriction = "" then "" else " WHERE " ++ restriction

/-- The counting form of a selecting query: only its beginning differs. -/
def countingForm (entityAlias query : String) : String :=
  match Text.afterLead? (selectLead entityAlias) query with
  | some rest => countLead entityAlias ++ rest
  | none => query

/-- A finder name resolved to its queries. -/
structure Resolution where
  words : List Word
  query : String
  countQuery : String
  parameters : List Parameter

namespace Resolution

def ofWords (words : List Word) (entityName entityAlias : String) : Resolution where
  words
  query := selectText words entityName entityAlias
  countQuery := countingForm entityAlias (selectText words entityName entityAlias)
  parameters := Query.parameters words

def parameterNames (resolution : Resolution) : List String :=
  resolution.parameters.map (·.name)

def parameterTypes (resolution : Resolution) : List Java.TypeExpr :=
  resolution.parameters.map (·.type)

end Resolution

/-- Resolves a finder name over the fields of a class, if the scan of the name ends. -/
def resolve (body : ClassBody) (finder plural entityName entityAlias : String) :
    Option (Except Refusal Resolution) :=
  (Finder.read body finder plural).map fun reading =>
    reading.map (Resolution.ofWords · entityName entityAlias)

theorem exists_read_of_resolve {body : ClassBody} {finder plural entityName entityAlias : String}
    {resolution : Resolution} (resolved : resolve body finder plural entityName entityAlias = some (.ok resolution)) :
    ∃ found, Finder.read body finder plural = some (.ok found) ∧
      resolution = Resolution.ofWords found entityName entityAlias := by
  obtain ⟨outcome, reading, same⟩ := Option.map_eq_some_iff.mp resolved
  cases outcome with
  | error refusal => cases same
  | ok found => exact ⟨found, reading, (Except.ok.inj same).symm⟩

theorem resolve_of_read {body : ClassBody} {finder plural : String} {found : List Word}
    (reading : Finder.read body finder plural = some (.ok found)) (entityName entityAlias : String) :
    resolve body finder plural entityName entityAlias =
      some (.ok (Resolution.ofWords found entityName entityAlias)) := by
  rw [resolve, reading]
  rfl

theorem eq_ofWords_of_resolve {body : ClassBody} {finder plural entityName entityAlias : String}
    {resolution : Resolution} (resolved : resolve body finder plural entityName entityAlias = some (.ok resolution)) :
    resolution = Resolution.ofWords resolution.words entityName entityAlias := by
  obtain ⟨found, _, rfl⟩ := exists_read_of_resolve resolved
  rfl

end QueryByName.Query
