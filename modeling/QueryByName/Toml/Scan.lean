/-!
# Scanning TOML text

What the parts of the syntax share: scanners that take something off the front of a text,
repetition, blanks, line ends and comments.

* `repeated` ends because it goes on only while the text gets shorter.
-/

namespace QueryByName.Toml

/-- Takes something off the front of a text, or fails. -/
abbrev Scan (α : Type) :=
  List Char → Option (α × List Char)

/-- Takes things off the front of a text as long as that makes it shorter. -/
def repeated {α : Type} (item : Scan α) (text : List Char) : List α × List Char :=
  match item text with
  | none => ([], text)
  | some (taken, rest) =>
    if rest.length < text.length then
      let further := repeated item rest
      (taken :: further.1, further.2)
    else
      ([], text)
termination_by text.length

def symbol (expected : Char) : Scan Unit
  | character :: rest => if character = expected then some ((), rest) else none
  | [] => none

def isBlank (character : Char) : Bool :=
  character == ' ' || character == '\t'

/-- The characters allowed within a line: all but controls, and the tab. -/
def isLineChar (character : Char) : Bool :=
  character == '\t' || (0x20 ≤ character.toNat && character.toNat != 0x7F)

def skipBlanks (text : List Char) : List Char :=
  text.dropWhile isBlank

/-- Takes a line feed, with the carriage return that may stand before it. -/
def newline : Scan Unit
  | '\n' :: rest => some ((), rest)
  | '\r' :: '\n' :: rest => some ((), rest)
  | _ => none

def skipComment : List Char → List Char
  | '#' :: rest => rest.dropWhile isLineChar
  | text => text

/-- Takes what may stand behind an expression: blanks, a comment, and the end of the line or
of the text. -/
def lineEnd (text : List Char) : Option (Unit × List Char) :=
  match skipComment (skipBlanks text) with
  | [] => some ((), [])
  | rest => newline rest

/-- The text without the blanks, line ends and comments at its front.  The flag says whether
the text begins inside a comment, which only a line end closes. -/
def skipFiller : Bool → List Char → List Char
  | false, ' ' :: rest => skipFiller false rest
  | false, '\t' :: rest => skipFiller false rest
  | false, '#' :: rest => skipFiller true rest
  | _, '\n' :: rest => skipFiller false rest
  | _, '\r' :: '\n' :: rest => skipFiller false rest
  | true, character :: rest =>
    if isLineChar character then skipFiller true rest else character :: rest
  | _, text => text

end QueryByName.Toml
