import QueryByName.Text.Capital
import QueryByName.Unicode.Uppercase

/-!
# English plurals of camel-case names

The plural of a name is the plural of its last word after everything before it.  A word
begins at an uppercase letter; a name without one is a single word.
-/

namespace QueryByName.Text

open QueryByName.Unicode (isUppercase lowerForm)

/-- Words with a single form for both numbers. -/
def uncountableWords : List String :=
  ["equipment", "information", "rice", "money", "species", "series", "fish", "sheep", "news",
    "data"]

def irregularWords : List (String × String) :=
  [("person", "people"), ("man", "men"), ("woman", "women"), ("child", "children"),
    ("mouse", "mice"), ("goose", "geese"), ("foot", "feet"), ("tooth", "teeth"), ("ox", "oxen"),
    ("leaf", "leaves"), ("knife", "knives"), ("life", "lives"), ("wife", "wives"),
    ("half", "halves"), ("wolf", "wolves"), ("shelf", "shelves")]

/-- The letters before the last word, and the last word. -/
def splitLastWord : List Char → List Char × List Char
  | [] => ([], [])
  | first :: rest =>
    if rest.any isUppercase then
      (first :: (splitLastWord rest).1, (splitLastWord rest).2)
    else
      ([], first :: rest)

def vowels : List Char :=
  ['a', 'e', 'i', 'o', 'u']

/-- The stem of a word in `y` that gives up that letter: one with a letter other than a vowel
before it. -/
def consonantStem? (word : List Char) : Option (List Char) :=
  match word.reverse with
  | last :: before :: stem =>
    if (last == 'y' || last == 'Y') && !vowels.contains before.toLower then
      some (before :: stem).reverse
    else
      none
  | _ => none

def sibilantEndings : List (List Char) :=
  [['s'], ['x'], ['z'], ['c', 'h'], ['s', 'h']]

def regularPlural (word : List Char) : List Char :=
  match consonantStem? word with
  | some stem => stem ++ ['i', 'e', 's']
  | none =>
    if sibilantEndings.any (·.isSuffixOf (word.flatMap lowerForm)) then word ++ ['e', 's']
    else word ++ ['s']

/-- The plural of one word.  Irregular plurals take over the case of the first letter. -/
def pluralWord (word : List Char) : List Char :=
  let lower := String.ofList (word.flatMap lowerForm)
  if uncountableWords.contains lower then word
  else
    match irregularWords.find? (·.1 == lower) with
    | some (_, plural) =>
      if word.head?.any isUppercase then raiseFirst plural.toList else plural.toList
    | none => regularPlural word

/-- The plural of a name; the empty name has none. -/
def plural (name : String) : String :=
  if name = "" then ""
  else
    let parts := splitLastWord name.toList
    String.ofList (parts.1 ++ pluralWord parts.2)

end QueryByName.Text
