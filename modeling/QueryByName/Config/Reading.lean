import QueryByName.Config.Mismatch
import QueryByName.Config.Settings

/-!
# Reading settings from a document

A table of settings is given as a table, by keys, or as an array, by the order in which the
settings are declared.  Values are read in the order of the document and the first that does
not fit ends the reading.  Keys that are no settings are passed over; they are strays, and
what stands below a stray is not looked at.
-/

namespace QueryByName.Config

open QueryByName.Toml (Document Value)

/-- A setting of a table: its key, how a value sets it, and the paths of the strays that a
value holds. -/
structure Slot (Table : Type) where
  key : String
  set : Value → Table → Except Mismatch Table
  strays : Value → List String

/-- A setting that is a single value. -/
def Slot.single {Table : Type} (key : String) (set : Value → Table → Except Mismatch Table) :
    Slot Table :=
  ⟨key, set, fun _ => []⟩

/-- The settings of a table, in the order of their declaration. -/
abbrev Shape (Table : Type) :=
  List (Slot Table)

namespace Shape

variable {Table : Type}

def slot? (shape : Shape Table) (key : String) : Option (Slot Table) :=
  shape.find? (·.key == key)

/-- Sets what the entries of a table name, in their order. -/
def readEntries (shape : Shape Table) :
    List (String × Value) → Table → Except Mismatch Table
  | [], table => .ok table
  | (key, value) :: rest, table =>
    match shape.slot? key with
    | none => readEntries shape rest table
    | some slot =>
      match slot.set value table with
      | .error mismatch => .error mismatch
      | .ok changed => readEntries shape rest changed

/-- Sets the settings in the order of their declaration; elements beyond the last setting are
left alone. -/
def readElements : Shape Table → List Value → Table → Except Mismatch Table
  | slot :: slots, value :: rest, table =>
    match slot.set value table with
    | .error mismatch => .error mismatch
    | .ok changed => readElements slots rest changed
  | _, _, table => .ok table

/-- Sets what a value holds; a date holds no setting. -/
def read (shape : Shape Table) (expected : Expectation) (value : Value) (table : Table) :
    Except Mismatch Table :=
  match value with
  | .table entries => shape.readEntries entries table
  | .array elements => shape.readElements elements table
  | .dateTime => .ok table
  | other => .error ⟨other, expected⟩

/-- The paths of the strays among the entries of a table. -/
def entryStrays (shape : Shape Table) (entries : List (String × Value)) : List String :=
  entries.flatMap fun (key, value) =>
    match shape.slot? key with
    | none => [key]
    | some slot => (slot.strays value).map fun path => key ++ "." ++ path

/-- The key under which a date counts as a stray. -/
def dateTimeKey : String :=
  "$__toml_private_datetime"

/-- The paths of the strays that a value holds. -/
def strays (shape : Shape Table) : Value → List String
  | .table entries => shape.entryStrays entries
  | .dateTime => [dateTimeKey]
  | _ => []

end Shape

/-! ## Single values -/

def readCount (value : Value) : Except Mismatch Nat :=
  match value with
  | .integer (.ofNat number) => .ok number
  | other => .error ⟨other, .count⟩

def readText (value : Value) : Except Mismatch String :=
  match value with
  | .string text => .ok text
  | other => .error ⟨other, .text⟩

def readTruth (value : Value) : Except Mismatch Bool :=
  match value with
  | .boolean truth => .ok truth
  | other => .error ⟨other, .truth⟩

def readTexts (value : Value) : Except Mismatch (List String) :=
  match value with
  | .array elements => elements.mapM readText
  | other => .error ⟨other, .sequence⟩

/-! ## The tables -/

def finderShape : Shape FinderSettings :=
  [.single "depth" fun value settings =>
      (readCount value).map fun depth => { settings with depth },
    .single "alias" fun value settings =>
      (readText value).map fun entityAlias => { settings with entityAlias },
    .single "count_queries" fun value settings =>
      (readTruth value).map fun countQueries => { settings with countQueries },
    .single "exclude" fun value settings =>
      (readTexts value).map fun exclude => { settings with exclude }]

def logShape : Shape LogSettings :=
  [.single "level" fun value settings =>
      (readText value).map fun level => { settings with level },
    .single "json" fun value settings =>
      (readTruth value).map fun json => { settings with json }]

def rootShape : Shape Settings :=
  [{  key := "finder"
      set := fun value settings =>
        (finderShape.read .finderTable value {}).map fun finder => { settings with finder }
      strays := finderShape.strays },
    { key := "logging"
      set := fun value settings =>
        (logShape.read .logTable value {}).map fun log => { settings with log }
      strays := logShape.strays }]

def Settings.ofDocument (document : Document) : Except Mismatch Settings :=
  rootShape.readEntries document {}

/-- The paths of the keys of a document that are no settings, in increasing order. -/
def unknownKeys (document : Document) : List String :=
  Ordered.ofList compare (rootShape.entryStrays document)

end QueryByName.Config
