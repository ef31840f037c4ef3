import QueryByName.Config.Loading
import QueryByName.Workspace.FileTree

/-!
# Finding the settings of a workspace

The settings of a workspace stand in the file that the environment names or else in a file of
a fixed name at the root of the workspace.  A file that the environment names counts even if
it does not exist, so that loading reports it.
-/

namespace QueryByName.Workspace

open QueryByName.Config (LoadFailure Notes Settings loadText loadTextWithNotes)

/-- A path within a directory; an absolute path stands for itself. -/
def joined (directory path : String) : String :=
  if path.toList.head? = some '/' then path
  else if directory.toList.getLast? = some '/' then directory ++ path
  else directory ++ "/" ++ path

/-- The names under which settings are looked for at the root, in this order. -/
def settingsNames : List String :=
  ["roost.toml", ".roost.toml"]

def leadsToFile (tree : FileTree) (path : String) : Bool :=
  (tree.place? path).any tree.isFile

/-- The path of the settings of the workspace at `root`, given the path that the environment
names, if it names one. -/
def settingsPath? (tree : FileTree) (root : String) (named : Option String) : Option String :=
  match named with
  | some path => some (tree.canonical (joined root path))
  | none =>
    ((settingsNames.map (joined root)).find? (leadsToFile tree)).map tree.canonical

def settingsText (tree : FileTree) (path : String) : Except LoadFailure String :=
  match tree.readText? path with
  | some text => .ok text
  | none => .error (.unreadable path)

def loadFile (tree : FileTree) (path : String) : Except LoadFailure Settings :=
  (settingsText tree path).bind loadText

def loadFileWithNotes (tree : FileTree) (path : String) : Except LoadFailure (Settings × Notes) :=
  (settingsText tree path).bind loadTextWithNotes

/-- The settings of the workspace at `root` with the path of their file; standard settings if
there is no file. -/
def loadWorkspace (tree : FileTree) (root : String) (named : Option String) :
    Except LoadFailure (Settings × Option String) :=
  match settingsPath? tree root named with
  | none => .ok ({}, none)
  | some path => (loadFile tree path).map fun settings => (settings, some path)

end QueryByName.Workspace
