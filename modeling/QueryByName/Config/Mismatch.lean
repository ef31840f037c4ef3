import QueryByName.Decimal.Shortest
import QueryByName.Text.Quoted
import QueryByName.Toml.Value

/-!
# Values that do not fit a setting

A well-formed document may hold a value of the wrong kind where a setting is expected.
-/

namespace QueryByName.Config

open QueryByName.Toml (Value)

inductive Expectation where
  | count
  | text
  | truth
  | sequence
  | finderTable
  | logTable
deriving DecidableEq

def Expectation.display : Expectation → String
  | count => "usize"
  | text => "a string"
  | truth => "a boolean"
  | sequence => "a sequence"
  | finderTable => "struct FinderConfig"
  | logTable => "struct LoggingConfig"

/-- The kind of a value, with the value itself where it is short. -/
def found : Value → String
  | .string text => "string " ++ Text.quoted text
  | .integer number => "integer `" ++ toString number ++ "`"
  | .float number => "floating point `" ++ number.display ++ "`"
  | .boolean truth => "boolean `" ++ (if truth then "true" else "false") ++ "`"
  | .dateTime => "map"
  | .array _ => "sequence"
  | .table _ => "map"

structure Mismatch where
  value : Value
  expected : Expectation

/-- The text about a mismatch.  A negative number where a count is expected has the right kind
and the wrong value. -/
def Mismatch.message (mismatch : Mismatch) : String :=
  let kind :=
    match mismatch.value, mismatch.expected with
    | .integer _, .count => "value"
    | _, _ => "type"
  "invalid " ++ kind ++ ": " ++ found mismatch.value ++ ", expected " ++ mismatch.expected.display

end QueryByName.Config
