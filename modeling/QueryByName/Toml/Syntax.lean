import QueryByName.Toml.DateTime
import QueryByName.Toml.Number
import QueryByName.Toml.Quote
import QueryByName.Toml.Table

/-!
# The syntax of TOML documents

A document is a row of lines: entries, headers, comments and blanks.  Values nest to a
limited depth, and so do the parts of a dotted key.
-/

namespace QueryByName.Toml

/-! ## Keys -/

def isBareKeyChar (character : Char) : Bool :=
  character.isAlphanum || character == '_' || character == '-'

def keyPart : Scan String := fun text =>
  if text.head?.any isBareKeyChar then
    some (String.ofList (text.takeWhile isBareKeyChar), text.dropWhile isBareKeyChar)
  else
    lineString text

def furtherKeyPart : Scan String := fun text => do
  let ((), text) ← symbol '.' (skipBlanks text)
  keyPart (skipBlanks text)

/-- The number of parts at which a key is refused. -/
def keyPartLimit : Nat :=
  80

/-- The parts of a key before its last one, and the last one. -/
structure KeyPath where
  path : List String
  last : String

/-- A key of one or more parts with dots between them and blanks around them. -/
def keyPath : Scan KeyPath := fun text => do
  let (first, text) ← keyPart (skipBlanks text)
  let (further, text) := repeated furtherKeyPart text
  if keyPartLimit ≤ further.length + 1 then none
  else some (⟨(first :: further).dropLast, further.getLast?.getD first⟩, skipBlanks text)

/-! ## Values -/

def isBareValueChar (character : Char) : Bool :=
  character.isAlphanum || ['_', '+', '-', '.', ':'].contains character

/-- The value that a text without quotes or brackets denotes. -/
def bareValue? (text : List Char) : Option Value :=
  if text = ['t', 'r', 'u', 'e'] then some (.boolean true)
  else if text = ['f', 'a', 'l', 's', 'e'] then some (.boolean false)
  else if isDateOrTime text then some .dateTime
  else (integer? text).map .integer <|> (float? text).map .float

/-- A value without quotes or brackets.  A date may be followed by a blank and a time. -/
def bareValue : Scan Value := fun text =>
  let word := text.takeWhile isBareValueChar
  let rest := text.dropWhile isBareValueChar
  match rest with
  | ' ' :: digit :: more =>
    if isDate word && digit.isDigit then
      if isTimeWithOffset ((digit :: more).takeWhile isBareValueChar) then
        some (.dateTime, (digit :: more).dropWhile isBareValueChar)
      else none
    else (bareValue? word).map fun value => (value, rest)
  | _ => (bareValue? word).map fun value => (value, rest)

/-- A further element of an array, behind its comma. -/
def furtherElement (element : Scan Value) : Scan Value := fun text => do
  let ((), text) ← symbol ',' (skipFiller false text)
  element (skipFiller false text)

/-- The elements of an array behind its opening bracket.  A comma may follow the last one. -/
def arrayElements (element : Scan Value) : Scan (List Value) := fun text =>
  let text := skipFiller false text
  match symbol ']' text with
  | some ((), rest) => some ([], rest)
  | none => do
    let (first, text) ← element text
    let (further, text) := repeated (furtherElement element) text
    let text := skipFiller false text
    let text := ((symbol ',' text).map (·.2)).getD text
    let ((), text) ← symbol ']' (skipFiller false text)
    some (first :: further, text)

def inlineEntry (element : Scan Value) : Scan (KeyPath × Value) := fun text => do
  let (key, text) ← keyPath text
  let ((), text) ← symbol '=' text
  let (value, text) ← element (skipBlanks text)
  some ((key, value), skipBlanks text)

/-- A further key and its value within braces, behind the comma. -/
def furtherInlineEntry (element : Scan Value) : Scan (KeyPath × Value) := fun text => do
  let ((), text) ← symbol ',' text
  inlineEntry element text

/-- Adds an entry to a table within braces. -/
def addInlineEntry (made : Entries) (entry : KeyPath × Value) : Option Entries :=
  made.addValue entry.1.path entry.1.last entry.2 .written

/-- The entries of a table within braces, put together. -/
def inlineTable? (entries : List (KeyPath × Value)) : Option Value :=
  (entries.foldlM addInlineEntry []).map fun made => .table (finishedEntries made)

/-- The entries of a table behind its opening brace. -/
def inlineEntries (element : Scan Value) : Scan Value := fun text =>
  match symbol '\x7d' (skipBlanks text) with
  | some ((), rest) => some (.table [], rest)
  | none => do
    let (first, text) ← inlineEntry element text
    let (further, text) := repeated (furtherInlineEntry element) text
    let table ← inlineTable? (first :: further)
    let ((), text) ← symbol '\x7d' text
    some (table, text)

/-- A value in which arrays and tables nest to a given depth. -/
def value : Nat → Scan Value
  | _, '"' :: text => (anyString ('"' :: text)).map fun (taken, rest) => (.string taken, rest)
  | _, '\'' :: text => (anyString ('\'' :: text)).map fun (taken, rest) => (.string taken, rest)
  | 0, '[' :: _ => none
  | depth + 1, '[' :: text =>
    (arrayElements (value depth) text).map fun (taken, rest) => (.array taken, rest)
  | 0, '\x7b' :: _ => none
  | depth + 1, '\x7b' :: text => inlineEntries (value depth) text
  | _, text => bareValue text

/-- The depth to which arrays and tables within values nest. -/
def nestingLimit : Nat :=
  79

/-! ## Lines -/

inductive Line where
  | blank
  | entry (key : KeyPath) (value : Value)
  | header (key : KeyPath)
  | elementHeader (key : KeyPath)

/-- The header of a table behind its opening bracket. -/
def headerLine : Scan Line := fun text => do
  let (key, text) ← keyPath text
  let ((), text) ← symbol ']' text
  let ((), text) ← lineEnd text
  some (.header key, text)

/-- The header of an element behind its opening brackets. -/
def elementHeaderLine : Scan Line := fun text => do
  let (key, text) ← keyPath text
  let ((), text) ← symbol ']' text
  let ((), text) ← symbol ']' text
  let ((), text) ← lineEnd text
  some (.elementHeader key, text)

def entryLine : Scan Line := fun text => do
  let (key, text) ← keyPath text
  let ((), text) ← symbol '=' text
  let (value, text) ← value nestingLimit (skipBlanks text)
  let ((), text) ← lineEnd text
  some (.entry key value, text)

def line : Scan Line := fun text =>
  match lineEnd text with
  | some ((), rest) => some (.blank, rest)
  | none =>
    match skipBlanks text with
    | '[' :: '[' :: rest => elementHeaderLine rest
    | '[' :: rest => headerLine rest
    | rest => entryLine rest

/-- The lines of a text, unless some part of it is no line. -/
def lines? (text : List Char) : Option (List Line) :=
  match repeated line text with
  | (found, []) => some found
  | _ => none

/-! ## Documents -/

/-- A document in the making, with the header under which entries go. -/
structure Draft where
  entries : Entries
  header : List String

/-- Adds what a line says. -/
def Draft.add (draft : Draft) : Line → Option Draft
  | .blank => some draft
  | .entry key value =>
    (draft.entries.addValueUnder draft.header key.path key.last value).map fun entries =>
      { draft with entries }
  | .header key =>
    (draft.entries.openTable key.path key.last).map fun entries =>
      ⟨entries, key.path ++ [key.last]⟩
  | .elementHeader key =>
    (draft.entries.openElement key.path key.last).map fun entries =>
      ⟨entries, key.path ++ [key.last]⟩

/-- The document that lines put together. -/
def Document.ofLines? (lines : List Line) : Option Document :=
  (lines.foldlM Draft.add ⟨[], []⟩).map fun draft => finishedEntries draft.entries

/-- A text without the byte order mark that may stand in front. -/
def skipByteOrderMark : List Char → List Char
  | '\uFEFF' :: rest => rest
  | text => text

/-- The document that a text denotes, if it is well formed. -/
def Document.parse? (text : String) : Option Document :=
  (lines? (skipByteOrderMark text.toList)).bind Document.ofLines?

end QueryByName.Toml
