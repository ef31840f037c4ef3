/-!
# File trees

A tree of directories and files, paths in it, and the canonical form of the paths that lead
somewhere.
-/

namespace QueryByName.Workspace

inductive Entry where
  | directory
  | file (content : ByteArray)

/-- A tree, as the places below its root with what stands there.  What is put later hides what
was put at the same place before. -/
structure FileTree where
  places : List (List String × Entry)

namespace FileTree

def empty : FileTree :=
  ⟨[]⟩

def put (tree : FileTree) (place : List String) (entry : Entry) : FileTree :=
  ⟨(place, entry) :: tree.places⟩

/-- What stands at a place; the root is a directory. -/
def entry? (tree : FileTree) (place : List String) : Option Entry :=
  if place = [] then some .directory
  else (tree.places.find? (·.1 == place)).map (·.2)

def isDirectory (tree : FileTree) (place : List String) : Bool :=
  match tree.entry? place with
  | some .directory => true
  | _ => false

def isFile (tree : FileTree) (place : List String) : Bool :=
  match tree.entry? place with
  | some (.file _) => true
  | _ => false

/-- The place that a part of a path names, seen from a place, whatever stands there. -/
def turn (place : List String) (part : String) : List String :=
  if part = "" ∨ part = "." then place
  else if part = ".." then place.dropLast
  else place ++ [part]

/-- The place that the next part of a path leads to.  Only directories lead on. -/
def follow (tree : FileTree) (place : List String) (part : String) : Option (List String) :=
  if tree.isDirectory place ∧ (tree.entry? (turn place part)).isSome then some (turn place part)
  else none

def parts (path : String) : List String :=
  (path.toList.splitOn '/').map String.ofList

/-- The tree with a directory wherever the parts of a path lead to nothing, and the place at
the end of that path. -/
def pave (tree : FileTree) (place : List String) : List String → FileTree × List String
  | [] => (tree, place)
  | part :: rest =>
    if (tree.entry? (turn place part)).isSome then pave tree (turn place part) rest
    else pave (tree.put (turn place part) .directory) (turn place part) rest

/-- The tree with a directory at a path from a place, and with the directories on the way. -/
def makeDirectory (tree : FileTree) (place : List String) (path : String) : FileTree :=
  (tree.pave place (parts path)).1

/-- The tree with a file at a path from a place, and with the directories on the way. -/
def writeFile (tree : FileTree) (place : List String) (path : String) (content : ByteArray) :
    FileTree :=
  let (paved, parent) := tree.pave place (parts path).dropLast
  match (parts path).getLast? with
  | some name => paved.put (turn parent name) (.file content)
  | none => paved

/-- The place that an absolute path leads to. -/
def place? (tree : FileTree) (path : String) : Option (List String) :=
  (parts path).foldlM tree.follow []

/-- The absolute path of a place, without detours. -/
def pathOf (place : List String) : String :=
  "/" ++ String.intercalate "/" place

/-- The canonical form of an absolute path; a path that leads nowhere stays as it is. -/
def canonical (tree : FileTree) (path : String) : String :=
  match tree.place? path with
  | some place => pathOf place
  | none => path

/-- The text of the file that an absolute path leads to, if it is one in UTF-8. -/
def readText? (tree : FileTree) (path : String) : Option String :=
  (tree.place? path).bind fun place =>
    match tree.entry? place with
    | some (.file content) => String.fromUTF8? content
    | _ => none

end FileTree

end QueryByName.Workspace
