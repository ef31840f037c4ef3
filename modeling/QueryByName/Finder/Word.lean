import QueryByName.Finder.Keyword
import QueryByName.Java.Field
import QueryByName.Text.Capital

/-!
# Words of finder names

A finder name is a row of words without separators.  A word is a field, spelled with a
capital first letter, or a keyword.  The matching order puts longer spellings first, so the
first word in that order that begins a text is the longest one that does.
-/

namespace QueryByName.Java

def Field.spelling (field : Field) : String :=
  Text.capitalized field.name

end QueryByName.Java

namespace QueryByName.Finder

open QueryByName.Java (Field)

/-- Compares spellings: the longer one first, equally long ones by their characters. -/
def spellingOrder (left right : String) : Ordering :=
  (compare right.utf8ByteSize left.utf8ByteSize).then (compare left right)

def fieldOrder (left right : Field) : Ordering :=
  spellingOrder left.spelling right.spelling

inductive Word where
  | field (named : Field)
  | keyword (reserved : Keyword)

namespace Word

def spelling : Word → String
  | .field named => named.spelling
  | .keyword reserved => reserved.spelling

def keyword? : Word → Option Keyword
  | .field _ => none
  | .keyword reserved => some reserved

def isKeyword : Word → Bool
  | .field _ => false
  | .keyword _ => true

/-- Whether two words count as one: fields of one spelling, or the same keyword.  A field is
never a keyword, even when it is spelled like one. -/
def sameAs : Word → Word → Bool
  | .field left, .field right => left.spelling == right.spelling
  | .keyword left, .keyword right => left == right
  | _, _ => false

/-- Compares spellings and puts a field before the keyword that is spelled alike. -/
def order (left right : Word) : Ordering :=
  (spellingOrder left.spelling right.spelling).then (compare left.isKeyword right.isKeyword)

/-- The words in a row, each counted once. -/
def distinct (words : List Word) : List Word :=
  words.eraseDupsBy sameAs

end Word

end QueryByName.Finder
