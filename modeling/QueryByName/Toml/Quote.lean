import QueryByName.Toml.Scan

/-!
# Quoted strings of TOML

Basic strings have escapes, literal strings have none, and both may span lines between
threefold quotes.  A multi-line string may end in one or two quotes of its own, so up to five
quotes stand at its end.
-/

namespace QueryByName.Toml

/-- The character that a letter stands for after a backslash. -/
def escapeLetter? : Char → Option Char
  | 'b' => some '\x08'
  | 't' => some '\t'
  | 'n' => some '\n'
  | 'f' => some '\x0c'
  | 'r' => some '\r'
  | '"' => some '"'
  | '\\' => some '\\'
  | _ => none

def hexValue? (digit : Char) : Option Nat :=
  if '0' ≤ digit ∧ digit ≤ '9' then some (digit.toNat - '0'.toNat)
  else if 'a' ≤ digit ∧ digit ≤ 'f' then some (digit.toNat - 'a'.toNat + 10)
  else if 'A' ≤ digit ∧ digit ≤ 'F' then some (digit.toNat - 'A'.toNat + 10)
  else none

/-- The number that hexadecimal digits denote after those already read. -/
def hexNumber? : Nat → List Char → Option Nat
  | sofar, [] => some sofar
  | sofar, digit :: digits => (hexValue? digit).bind fun value => hexNumber? (16 * sofar + value) digits

/-- The character whose code point hexadecimal digits denote; surrogates are none. -/
def codePoint? (digits : List Char) : Option Char :=
  (hexNumber? 0 digits).bind fun point =>
    if point.isValidChar then some (Char.ofNat point) else none

def prepend (character : Char) (scanned : Option (List Char × List Char)) :
    Option (List Char × List Char) :=
  scanned.map fun (text, rest) => (character :: text, rest)

/-- The characters of a basic string behind its opening quote. -/
def basicString : Scan (List Char)
  | [] => none
  | '"' :: rest => some ([], rest)
  | '\\' :: 'u' :: a :: b :: c :: d :: rest =>
    (codePoint? [a, b, c, d]).bind fun character => prepend character (basicString rest)
  | '\\' :: 'U' :: a :: b :: c :: d :: e :: f :: g :: h :: rest =>
    (codePoint? [a, b, c, d, e, f, g, h]).bind fun character =>
      prepend character (basicString rest)
  | '\\' :: letter :: rest =>
    (escapeLetter? letter).bind fun character => prepend character (basicString rest)
  | character :: rest =>
    if isLineChar character && character != '\\' then prepend character (basicString rest)
    else none

/-- The characters of a literal string behind its opening quote. -/
def literalString : Scan (List Char)
  | [] => none
  | '\'' :: rest => some ([], rest)
  | character :: rest =>
    if isLineChar character then prepend character (literalString rest) else none

/-- Whether only blanks stand before the end of the line. -/
def blankToLineEnd (text : List Char) : Bool :=
  (newline (skipBlanks text)).isSome

/-- The characters of a multi-line basic string behind its opening quotes.  The flag is set
behind a backslash at the end of a line, where blanks and line ends are left out. -/
def multiLineBasic : Bool → Scan (List Char)
  | _, [] => none
  | true, ' ' :: rest => multiLineBasic true rest
  | true, '\t' :: rest => multiLineBasic true rest
  | true, '\n' :: rest => multiLineBasic true rest
  | true, '\r' :: '\n' :: rest => multiLineBasic true rest
  | _, '"' :: '"' :: '"' :: '"' :: '"' :: rest =>
    if rest.head? = some '"' then none else some (['"', '"'], rest)
  | _, '"' :: '"' :: '"' :: '"' :: rest => some (['"'], rest)
  | _, '"' :: '"' :: '"' :: rest => some ([], rest)
  | _, '"' :: rest => prepend '"' (multiLineBasic false rest)
  | _, '\n' :: rest => prepend '\n' (multiLineBasic false rest)
  | _, '\r' :: '\n' :: rest => prepend '\n' (multiLineBasic false rest)
  | _, '\\' :: 'u' :: a :: b :: c :: d :: rest =>
    (codePoint? [a, b, c, d]).bind fun character =>
      prepend character (multiLineBasic false rest)
  | _, '\\' :: 'U' :: a :: b :: c :: d :: e :: f :: g :: h :: rest =>
    (codePoint? [a, b, c, d, e, f, g, h]).bind fun character =>
      prepend character (multiLineBasic false rest)
  | _, '\\' :: letter :: rest =>
    match escapeLetter? letter with
    | some character => prepend character (multiLineBasic false rest)
    | none => if blankToLineEnd (letter :: rest) then multiLineBasic true (letter :: rest) else none
  | _, character :: rest =>
    if isLineChar character && character != '\\' then prepend character (multiLineBasic false rest)
    else none

/-- The characters of a multi-line literal string behind its opening quotes. -/
def multiLineLiteral : Scan (List Char)
  | [] => none
  | '\'' :: '\'' :: '\'' :: '\'' :: '\'' :: rest =>
    if rest.head? = some '\'' then none else some (['\'', '\''], rest)
  | '\'' :: '\'' :: '\'' :: '\'' :: rest => some (['\''], rest)
  | '\'' :: '\'' :: '\'' :: rest => some ([], rest)
  | '\n' :: rest => prepend '\n' (multiLineLiteral rest)
  | '\r' :: '\n' :: rest => prepend '\n' (multiLineLiteral rest)
  | character :: rest =>
    if isLineChar character then prepend character (multiLineLiteral rest) else none

/-- The text without the line end that may follow the opening quotes of a multi-line
string. -/
def skipFirstLineEnd (text : List Char) : List Char :=
  match newline text with
  | some ((), rest) => rest
  | none => text

def lineString : Scan String
  | '"' :: rest => (basicString rest).map fun (text, left) => (String.ofList text, left)
  | '\'' :: rest => (literalString rest).map fun (text, left) => (String.ofList text, left)
  | _ => none

/-- A quoted string of any of the four kinds. -/
def anyString : Scan String
  | '"' :: '"' :: '"' :: rest =>
    (multiLineBasic false (skipFirstLineEnd rest)).map fun (text, left) =>
      (String.ofList text, left)
  | '\'' :: '\'' :: '\'' :: rest =>
    (multiLineLiteral (skipFirstLineEnd rest)).map fun (text, left) => (String.ofList text, left)
  | text => lineString text

end QueryByName.Toml
