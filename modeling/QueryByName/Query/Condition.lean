import QueryByName.Query.Section
import QueryByName.Text.Affix

/-!
# The condition of a query

Each section of a finder adds its part to the condition: the column of its field, what its
keywords say about the column, and connectives as they come.  A column that nothing is said
about is compared for equality before a connective and at the end.  Fields that hold
collections are no columns and add nothing.
-/

namespace QueryByName.Query

open QueryByName.Finder (Keyword Word)
open QueryByName.Java (Field)

def placeholder (field : Field) : String :=
  ":" ++ field.name

/-- The comparison of a column with the value of its field. -/
def equality (field : Field) : String :=
  " = " ++ placeholder field

/-- The column of a field, folded to one case if the keyword after it asks for that. -/
def column (entityAlias : String) (field : Field) (keyword : Keyword) : String :=
  if keyword.ignoresCase then "LOWER(" ++ entityAlias ++ "." ++ field.name ++ ")"
  else entityAlias ++ "." ++ field.name

/-- What a keyword says about the column of a field.  Connectives and the keyword for
membership say nothing. -/
def predicate? (field : Field) : Keyword → Option String
  | .and => none
  | .or => none
  | .member => none
  | .between => some (" BETWEEN :min" ++ field.spelling ++ " AND :max" ++ field.spelling)
  | .like => some (" LIKE LOWER(" ++ placeholder field ++ ")")
  | .ilike => some (" LIKE LOWER(" ++ placeholder field ++ ")")
  | .isNull => some " IS NULL"
  | .isNotNull => some " IS NOT NULL"
  | .not => some (" IS NOT " ++ placeholder field)
  | .equals => some (equality field)
  | .notEquals => some (" != " ++ placeholder field)
  | .lessThan => some (" < " ++ placeholder field)
  | .lessThanEquals => some (" <= " ++ placeholder field)
  | .greaterThan => some (" > " ++ placeholder field)
  | .greaterThanEquals => some (" >= " ++ placeholder field)

def connective? : Keyword → Option String
  | .and => some " AND "
  | .or => some " OR "
  | _ => none

/-- The equality that completes a column about which nothing has been said. -/
def completion (field : Field) (said : Bool) : String :=
  if said then "" else equality field

/-- What a row of keywords adds after the column of a field, and whether anything has been
said about the column in the end. -/
def remarks (field : Field) : Bool → List Keyword → String × Bool
  | said, [] => ("", said)
  | said, keyword :: rest =>
    match connective? keyword, predicate? field keyword with
    | some connective, _ =>
      let further := remarks field true rest
      (completion field said ++ connective ++ further.1, further.2)
    | none, some predicate =>
      let further := remarks field true rest
      (predicate ++ further.1, further.2)
    | none, none => remarks field said rest

/-- The part of a section that another section follows.  A field directly before a field
leaves no trace. -/
def innerPart (entityAlias : String) (part : Section) : String :=
  match part.keywords with
  | [] => ""
  | keyword :: rest =>
    if part.field.isCollection then ""
    else
      column entityAlias part.field keyword ++ (remarks part.field false (keyword :: rest)).1

/-- The part of the last section, with its column completed. -/
def lastPart (entityAlias : String) (part : Section) : String :=
  if part.field.isCollection then ""
  else
    match part.keywords with
    | [] => entityAlias ++ "." ++ part.field.name ++ equality part.field
    | keyword :: rest =>
      let said := remarks part.field false (keyword :: rest)
      column entityAlias part.field keyword ++ said.1 ++ completion part.field said.2

def partsText (entityAlias : String) : List Section → String
  | [] => ""
  | [part] => lastPart entityAlias part
  | part :: next :: rest => innerPart entityAlias part ++ partsText entityAlias (next :: rest)

/-- A condition without a connective left over at its end. -/
def withoutTrailingConnective (condition : String) : String :=
  Text.withoutTail " OR " (Text.withoutTail " AND " condition)

/-- The condition that a row of words puts on the entity. -/
def condition (entityAlias : String) (words : List Word) : String :=
  withoutTrailingConnective (partsText entityAlias (sections words))

end QueryByName.Query
