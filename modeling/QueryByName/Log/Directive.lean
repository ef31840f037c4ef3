import QueryByName.Ordered
import QueryByName.Text.Trim
import QueryByName.Unicode.Alphabetic
import QueryByName.Unicode.Numeric

/-!
# Log directives

A directive sets the level at which a target is logged, or the level of everything if it has
no target.  A filter is a set of directives with one for each target, longer targets first.

* A filter is written as its directives with commas between them.
* A text is read piece by piece, and a piece that is no directive fails the whole text.
-/

namespace QueryByName.Log

open QueryByName.Unicode (isAlphabetic isNumeric)

inductive Level where
  | off
  | error
  | warn
  | info
  | debug
  | trace
deriving DecidableEq, Repr

namespace Level

/-- The levels in increasing order; the place of a level is its number. -/
def all : List Level :=
  [off, error, warn, info, debug, trace]

def display : Level → String
  | off => "off"
  | error => "error"
  | warn => "warn"
  | info => "info"
  | debug => "debug"
  | trace => "trace"

def number? (text : List Char) : Option Nat :=
  let digits :=
    match text with
    | '+' :: rest => rest
    | other => other
  if digits.isEmpty || !digits.all Char.isDigit then none
  else some (digits.foldl (fun number digit => 10 * number + (digit.toNat - '0'.toNat)) 0)

/-- The level of the given number or, in any case of letters, of the given name. -/
def ofText? (text : List Char) : Option Level :=
  match number? text with
  | some number => all[number]?
  | none => all.find? fun level => level.display.toList == text.map Char.toLower

end Level

/-- The level at which a target, or everything, is logged. -/
structure Directive where
  target : Option String
  level : Level
deriving DecidableEq

namespace Directive

def display (directive : Directive) : String :=
  match directive.target with
  | some target => target ++ "=" ++ directive.level.display
  | none => directive.level.display

/-- The order of targets: the longer one first, equally long ones in decreasing order, and no
target last. -/
def targetOrder : Option String → Option String → Ordering
  | none, none => .eq
  | none, some _ => .gt
  | some _, none => .lt
  | some left, some right =>
    (compare right.utf8ByteSize left.utf8ByteSize).then (compare right left)

def order (left right : Directive) : Ordering :=
  targetOrder left.target right.target

def beginsPiece (character : Char) : Bool :=
  isAlphabetic character || isNumeric character || ['-', ':', '_'].contains character

/-- The directive without a sign of equality that a text denotes: a level, or else a target
logged in full. -/
def ofPlain (text : List Char) : Directive :=
  match Level.ofText? text with
  | some level => ⟨none, level⟩
  | none => ⟨some (String.ofList text), .trace⟩

/-- The directive of a target and the text of its level; a level left out logs in full. -/
def ofPair? (target level : List Char) : Option Directive :=
  if level = [] then some ⟨some (String.ofList target), .trace⟩
  else (Level.ofText? level).map fun found => ⟨some (String.ofList target), found⟩

/-- The directive that a piece of text denotes.  The sign of equality is looked for in the
piece without the blanks around it, and its place is then counted in the piece as given. -/
def ofPiece? (piece : List Char) : Option Directive :=
  let core := Text.trimLetters piece
  if core.head?.any beginsPiece then
    if core.contains '=' then
      let place := (core.takeWhile (· != '=')).length
      ofPair? (piece.take place) (piece.drop (place + 1))
    else some (ofPlain piece)
  else none

end Directive

/-- A set of directives with one for each target, in the order of the targets. -/
abbrev Filter :=
  List Directive

namespace Filter

/-- The filter of the given directives; of two for one target the later one counts. -/
def ofDirectives (directives : List Directive) : Filter :=
  Ordered.ofList Directive.order directives

/-- The pieces of a text between commas that are not empty. -/
def pieces (text : String) : List (List Char) :=
  (text.toList.splitOn ',').filter (!·.isEmpty)

/-- The filter that a text denotes, if every piece of it is a directive. -/
def parse? (text : String) : Option Filter :=
  ((pieces text).mapM Directive.ofPiece?).map ofDirectives

def display (filter : Filter) : String :=
  String.intercalate "," (filter.map Directive.display)

end Filter

end QueryByName.Log
