import QueryByName.Unicode.WhiteSpace

/-!
# Trimming

Removing the white space at both ends of a text.
-/

namespace QueryByName.Text

open QueryByName.Unicode (isWhiteSpace)

/-- The letters from the first to the last one that is not white space. -/
def trimLetters (letters : List Char) : List Char :=
  ((letters.dropWhile isWhiteSpace).reverse.dropWhile isWhiteSpace).reverse

def trimmed (text : String) : String :=
  String.ofList (trimLetters text.toList)

def isBlank (text : String) : Bool :=
  trimmed text == ""

end QueryByName.Text
