import QueryByName.Decimal.Binary64

/-!
# Numbers of TOML

The written forms of integers and floating point numbers, read as a whole.  Underscores may
stand between digits, decimal numbers do not begin with a needless zero, and integers have 64
bits with a sign.
-/

namespace QueryByName.Toml

open QueryByName.Decimal (Binary64)

/-- The digits of a row of digits with single underscores between them. -/
def separatedDigits? (isDigit : Char → Bool) : List Char → Option (List Char)
  | [] => none
  | [digit] => if isDigit digit then some [digit] else none
  | digit :: '_' :: rest =>
    if isDigit digit then (separatedDigits? isDigit rest).map (digit :: ·) else none
  | digit :: rest =>
    if isDigit digit then (separatedDigits? isDigit rest).map (digit :: ·) else none

def digitValue (digit : Char) : Nat :=
  if digit.isDigit then digit.toNat - '0'.toNat else digit.toLower.toNat - 'a'.toNat + 10

def isDigitIn (base : Nat) (character : Char) : Bool :=
  (character.isDigit || ('a' ≤ character.toLower && character.toLower ≤ 'f'))
    && digitValue character < base

def numberIn (base : Nat) (digits : List Char) : Nat :=
  digits.foldl (fun number digit => base * number + digitValue digit) 0

/-- The digits of a decimal number without a needless zero in front. -/
def decimalDigits? (text : List Char) : Option (List Char) :=
  match separatedDigits? Char.isDigit text with
  | some ('0' :: _ :: _) => none
  | digits => digits

/-- A sign, if there is one, and what follows it.  The sign is true for minus. -/
def splitSign : List Char → Bool × List Char
  | '+' :: rest => (false, rest)
  | '-' :: rest => (true, rest)
  | text => (false, text)

def signed (negative : Bool) (number : Nat) : Int :=
  if negative then -(number : Int) else number

/-- An integer that fits 64 bits with a sign. -/
def inRange? (number : Int) : Option Int :=
  if -9223372036854775808 ≤ number ∧ number ≤ 9223372036854775807 then some number else none

/-- The integer that digits denote in a base, behind the mark of that base. -/
def markedInteger? (base : Nat) (text : List Char) : Option Int :=
  (separatedDigits? (isDigitIn base) text).bind fun digits => inRange? (numberIn base digits)

def integer? : List Char → Option Int
  | '0' :: 'x' :: rest => markedInteger? 16 rest
  | '0' :: 'o' :: rest => markedInteger? 8 rest
  | '0' :: 'b' :: rest => markedInteger? 2 rest
  | text =>
    let (negative, rest) := splitSign text
    (decimalDigits? rest).bind fun digits => inRange? (signed negative (numberIn 10 digits))

def isDecimalPart (character : Char) : Bool :=
  character.isDigit || character == '_'

/-- The exponent of a floating point number; none is written as nothing. -/
def exponent? : List Char → Option Int
  | [] => some 0
  | mark :: text =>
    if mark == 'e' || mark == 'E' then
      let (negative, rest) := splitSign text
      (separatedDigits? Char.isDigit rest).map fun digits => signed negative (numberIn 10 digits)
    else
      none

/-- The digits behind the point of a floating point number, and what follows them. -/
def fraction? : List Char → Option (List Char × List Char)
  | '.' :: text =>
    (separatedDigits? Char.isDigit (text.takeWhile isDecimalPart)).map fun digits =>
      (digits, text.dropWhile isDecimalPart)
  | text => some ([], text)

/-- A finite number as a decimal, which has a fraction or an exponent or both, rounded to the
nearest value.  A positive number beyond the last value is refused. -/
def finiteFloat? (negative : Bool) (text : List Char) : Option Binary64 := do
  let whole ← decimalDigits? (text.takeWhile isDecimalPart)
  let rest := text.dropWhile isDecimalPart
  if rest.isEmpty then none
  else
    let (fraction, rest) ← fraction? rest
    let exponent ← exponent? rest
    let number :=
      Binary64.ofDecimal negative (numberIn 10 (whole ++ fraction)) (exponent - fraction.length)
    if number = .infinite false then none else some number

def float? (text : List Char) : Option Binary64 :=
  let (negative, rest) := splitSign text
  if rest = ['i', 'n', 'f'] then some (.infinite negative)
  else if rest = ['n', 'a', 'n'] then some .nan
  else finiteFloat? negative rest

end QueryByName.Toml
