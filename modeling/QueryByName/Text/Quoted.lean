import QueryByName.Unicode.Printable

/-!
# Quoted texts in messages

A text is shown between double quotes with escapes for what could not be seen: quotes,
backslashes and the usual control characters by a letter, and characters that have no
visible form or attach themselves to the one before by their code point.
-/

namespace QueryByName.Text

open QueryByName.Unicode (attaches isPrintable)

/-- The code point of a character in lowercase hexadecimal digits between braces. -/
def codePointEscape (character : Char) : String :=
  "\\u\x7b" ++ String.ofList (Nat.toDigits 16 character.toNat) ++ "\x7d"

def quotedChar (character : Char) : String :=
  match character with
  | '\x00' => "\\0"
  | '\t' => "\\t"
  | '\n' => "\\n"
  | '\r' => "\\r"
  | '"' => "\\\""
  | '\\' => "\\\\"
  | other =>
    if attaches other || !isPrintable other then codePointEscape other
    else String.singleton other

def quoted (text : String) : String :=
  "\"" ++ String.join (text.toList.map quotedChar) ++ "\""

end QueryByName.Text
