import QueryByName.Decimal.Binary64

/-!
# Values of a TOML document

A document is a table: keys with values in the order in which they were first written.
-/

namespace QueryByName.Toml

open QueryByName.Decimal (Binary64)

/-- A value of a document.  Nothing is kept of a date or a time but that it is one. -/
inductive Value where
  | string (text : String)
  | integer (number : Int)
  | float (number : Binary64)
  | boolean (truth : Bool)
  | dateTime
  | array (elements : List Value)
  | table (entries : List (String × Value))

/-- A document: the entries of its root table. -/
abbrev Document :=
  List (String × Value)

end QueryByName.Toml
