import QueryByName.Config.Check
import QueryByName.Config.Reading
import QueryByName.Toml.Syntax

/-!
# Loading settings from text

A text is loaded as settings, with or without notes on what the settings leave unused.
-/

namespace QueryByName.Config

open QueryByName.Toml (Document)

inductive LoadFailure where
  /-- The text is no document. -/
  | malformed
  /-- A value of the document does not fit its setting. -/
  | unfit (mismatch : Mismatch)
  /-- The file cannot be read as text. -/
  | unreadable (path : String)

/-- The text about a value that does not fit. -/
def unfitMessage (mismatch : Mismatch) : String :=
  "failed to parse toml config: " ++ mismatch.message

/-- What the settings of a document leave unused. -/
structure Notes where
  unknownKeys : List String
  warnings : List Warning

def Notes.isEmpty (notes : Notes) : Bool :=
  notes.unknownKeys.isEmpty && notes.warnings.isEmpty

def documentOf (text : String) : Except LoadFailure Document :=
  match Document.parse? text with
  | none => .error .malformed
  | some document => .ok document

def loadDocument (document : Document) : Except LoadFailure Settings :=
  match Settings.ofDocument document with
  | .error mismatch => .error (.unfit mismatch)
  | .ok settings => .ok settings

def loadDocumentWithNotes (document : Document) : Except LoadFailure (Settings × Notes) :=
  (loadDocument document).map fun settings =>
    (settings, ⟨unknownKeys document, settings.warnings⟩)

def loadText (text : String) : Except LoadFailure Settings :=
  (documentOf text).bind loadDocument

def loadTextWithNotes (text : String) : Except LoadFailure (Settings × Notes) :=
  (documentOf text).bind loadDocumentWithNotes

end QueryByName.Config
