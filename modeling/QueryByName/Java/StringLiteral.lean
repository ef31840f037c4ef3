/-!
# Java string literals

Writing a text between the quotes of a string literal: backslashes, quotes and line feeds
are escaped, and every other character stands for itself.
-/

namespace QueryByName.Java.StringLiteral

/-- The way a character is written inside a literal. -/
def escape : Char → List Char
  | '\\' => ['\\', '\\']
  | '"' => ['\\', '"']
  | '\n' => ['\\', 'n']
  | character => [character]

def escapeAll (letters : List Char) : List Char :=
  letters.flatMap escape

def escaped (text : String) : String :=
  String.ofList (escapeAll text.toList)

end QueryByName.Java.StringLiteral
