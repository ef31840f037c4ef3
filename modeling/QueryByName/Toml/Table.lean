import QueryByName.Toml.Value

/-!
# Putting a TOML table together

The tables of a document come about in three ways: written out under a header or between
braces, implied by a longer header, or implied by a dotted key.  How a table came about
decides what may still be added to it.

* A dotted key may extend only tables that dotted keys have made.
* A header may name a new table, or one that only longer headers have implied.
* A header in double brackets adds an element to an array that such headers have made.
* No key is written twice.
-/

namespace QueryByName.Toml

inductive Origin where
  | written
  | impliedByHeader
  | impliedByKey
deriving DecidableEq

/-- What stands under a key of a table in the making. -/
inductive Item where
  | value (value : Value)
  | table (origin : Origin) (entries : List (String × Item))
  | tables (elements : List (List (String × Item)))

/-- The entries of a table in the making, in the order in which they were first written. -/
abbrev Entries :=
  List (String × Item)

namespace Entries

def item? (entries : Entries) (key : String) : Option Item :=
  (List.find? (·.1 == key) entries).map (·.2)

/-- Puts an item under a key that is there already, in its place. -/
def replacing (entries : Entries) (key : String) (item : Item) : Entries :=
  entries.map fun entry => if entry.1 == key then (key, item) else entry

/-- Puts an item under a new key, at the end. -/
def adding (entries : Entries) (key : String) (item : Item) : Entries :=
  entries ++ [(key, item)]

def without (entries : Entries) (key : String) : Entries :=
  entries.filter (·.1 != key)

/-- Changes the table at a path; tables that are missing on the way are implied.  Of an array
of tables the last element counts. -/
def editAt (implied : Origin) (edit : Origin → Entries → Option Entries) :
    List String → Origin → Entries → Option Entries
  | [], origin, entries => edit origin entries
  | key :: path, _, entries =>
    match entries.item? key with
    | none => (editAt implied edit path implied []).map fun inner =>
        entries.adding key (.table implied inner)
    | some (.value _) => none
    | some (.table origin inner) =>
      if implied = .impliedByKey ∧ origin = .written then none
      else
        (editAt implied edit path origin inner).map fun changed =>
          entries.replacing key (.table origin changed)
    | some (.tables elements) =>
      match elements.getLast? with
      | none => none
      | some element =>
        (editAt implied edit path .written element).map fun changed =>
          entries.replacing key (.tables (elements.dropLast ++ [changed]))

/-- Adds a value under a dotted key, given as the path of its table and its last part. -/
def addValue (entries : Entries) (path : List String) (key : String) (value : Value)
    (origin : Origin) : Option Entries :=
  editAt .impliedByKey
    (fun reached inner =>
      if reached = .impliedByKey ↔ path = [] then none
      else if (inner.item? key).isSome then none
      else some (inner.adding key (.value value)))
    path origin entries

/-- Opens the table that a header names, given as the path of its parent and its last part.
A table that longer headers have implied moves to the end and counts as written. -/
def openTable (entries : Entries) (path : List String) (key : String) : Option Entries :=
  editAt .impliedByHeader
    (fun _ inner =>
      match inner.item? key with
      | none => some (inner.adding key (.table .written []))
      | some (.table .impliedByHeader kept) =>
        some ((inner.without key).adding key (.table .written kept))
      | some _ => none)
    path .written entries

/-- Opens a new element of the array of tables that a header in double brackets names. -/
def openElement (entries : Entries) (path : List String) (key : String) : Option Entries :=
  editAt .impliedByHeader
    (fun _ inner =>
      match inner.item? key with
      | none => some (inner.adding key (.tables [[]]))
      | some (.tables elements) => some (inner.replacing key (.tables (elements ++ [[]])))
      | some _ => none)
    path .written entries

/-- Adds a value under a dotted key of the table that a header has opened. -/
def addValueUnder (entries : Entries) (header path : List String) (key : String)
    (value : Value) : Option Entries :=
  editAt .impliedByHeader (fun origin inner => addValue inner path key value origin) header
    .written entries

end Entries

mutual

def Item.finished : Item → Value
  | .value value => value
  | .table _ entries => .table (finishedEntries entries)
  | .tables elements => .array (finishedElements elements)

def finishedEntries : List (String × Item) → List (String × Value)
  | [] => []
  | (key, item) :: rest => (key, item.finished) :: finishedEntries rest

def finishedElements : List (List (String × Item)) → List Value
  | [] => []
  | entries :: rest => .table (finishedEntries entries) :: finishedElements rest

end

end QueryByName.Toml
