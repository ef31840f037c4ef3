/-!
# Dates and times of TOML

The written forms of a date, of a time of day, and of both together with an optional offset.
Days exist in the calendar; a minute may have a leap second.
-/

namespace QueryByName.Toml

def twoDigits? (tens units : Char) : Option Nat :=
  if tens.isDigit && units.isDigit then
    some (10 * (tens.toNat - '0'.toNat) + (units.toNat - '0'.toNat))
  else
    none

/-- Whether two digits denote a number between two others. -/
def twoDigitsWithin (low high : Nat) (tens units : Char) : Bool :=
  (twoDigits? tens units).any fun number => low ≤ number && number ≤ high

def isLeapYear (year : Nat) : Bool :=
  year % 4 == 0 && (year % 100 != 0 || year % 400 == 0)

def daysIn (year month : Nat) : Nat :=
  if month = 2 then if isLeapYear year then 29 else 28
  else if [4, 6, 9, 11].contains month then 30
  else 31

/-- What follows the date at the front of a text. -/
def afterDate? : List Char → Option (List Char)
  | y₁ :: y₂ :: y₃ :: y₄ :: '-' :: m₁ :: m₂ :: '-' :: d₁ :: d₂ :: rest => do
    let century ← twoDigits? y₁ y₂
    let year ← twoDigits? y₃ y₄
    let month ← twoDigits? m₁ m₂
    if 1 ≤ month ∧ month ≤ 12 ∧ twoDigitsWithin 1 (daysIn (100 * century + year) month) d₁ d₂ then
      some rest
    else
      none
  | _ => none

/-- What follows the fraction of a second, if there is one. -/
def afterFraction? : List Char → Option (List Char)
  | '.' :: rest =>
    if rest.head?.any Char.isDigit then some (rest.dropWhile Char.isDigit) else none
  | text => some text

/-- What follows the time of day at the front of a text. -/
def afterTime? : List Char → Option (List Char)
  | h₁ :: h₂ :: ':' :: m₁ :: m₂ :: ':' :: s₁ :: s₂ :: rest =>
    if twoDigitsWithin 0 23 h₁ h₂ && twoDigitsWithin 0 59 m₁ m₂ && twoDigitsWithin 0 60 s₁ s₂ then
      afterFraction? rest
    else
      none
  | _ => none

def isOffset : List Char → Bool
  | [] => true
  | ['Z'] => true
  | ['z'] => true
  | [sign, h₁, h₂, ':', m₁, m₂] =>
    (sign == '+' || sign == '-') && twoDigitsWithin 0 23 h₁ h₂ && twoDigitsWithin 0 59 m₁ m₂
  | _ => false

/-- Whether a text is a time of day with an optional offset. -/
def isTimeWithOffset (text : List Char) : Bool :=
  (afterTime? text).any isOffset

def isDate (text : List Char) : Bool :=
  afterDate? text == some []

/-- Whether a text is a date, a date and a time joined by a letter, or a time of day. -/
def isDateOrTime (text : List Char) : Bool :=
  match afterDate? text with
  | some [] => true
  | some (joint :: rest) => (joint == 'T' || joint == 't') && isTimeWithOffset rest
  | none => afterTime? text == some []

end QueryByName.Toml
