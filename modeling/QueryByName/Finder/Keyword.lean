import QueryByName.Java.TypeExpr

/-!
# Keywords of finder names

The words of a finder name that are not fields.  Lists of keywords are in matching order:
longer spellings first, and spellings of one length by the alphabet.
-/

namespace QueryByName.Finder

open QueryByName.Java (TypeExpr)

inductive Keyword where
  | and
  | or
  | not
  | like
  | ilike
  | isNull
  | isNotNull
  | equals
  | notEquals
  | between
  | lessThan
  | lessThanEquals
  | greaterThan
  | greaterThanEquals
  | member
deriving DecidableEq, Repr

namespace Keyword

def spelling : Keyword → String
  | and => "And"
  | or => "Or"
  | not => "Not"
  | like => "Like"
  | ilike => "Ilike"
  | isNull => "IsNull"
  | isNotNull => "IsNotNull"
  | equals => "Equals"
  | notEquals => "NotEquals"
  | between => "Between"
  | lessThan => "LessThan"
  | lessThanEquals => "LessThanEquals"
  | greaterThan => "GreaterThan"
  | greaterThanEquals => "GreaterThanEquals"
  | member => "Member"

def isConnective : Keyword → Bool
  | and => true
  | or => true
  | _ => false

/-- Whether the keyword compares without regard to case. -/
def ignoresCase : Keyword → Bool
  | like => true
  | ilike => true
  | _ => false

/-- Whether the keyword asks for the absence of a value and so needs no parameter. -/
def needsNoValue : Keyword → Bool
  | isNull => true
  | isNotNull => true
  | _ => false

def all : List Keyword :=
  [greaterThanEquals, lessThanEquals, greaterThan, isNotNull, notEquals, lessThan, between,
    equals, isNull, member, ilike, like, and, not, or]

def forQuantities : List Keyword :=
  [greaterThanEquals, lessThanEquals, greaterThan, isNotNull, notEquals, lessThan, between,
    equals, isNull]

def forTexts : List Keyword :=
  [isNotNull, notEquals, equals, isNull, like]

def forBooleans : List Keyword :=
  [not]

/-- The keywords offered for a field of the given type. -/
def forType (type : TypeExpr) : List Keyword :=
  if type.isQuantity then forQuantities
  else if type.isString then forTexts
  else if type.isBoolean then forBooleans
  else []

end Keyword

end QueryByName.Finder
