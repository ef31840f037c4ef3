import QueryByName.Unicode.CaseMapping

/-!
# The first letter of a name

Raising and lowering the first character of a text.  A character that expands to several
when its case changes does so here too, so the results may be longer than the text.
-/

namespace QueryByName.Text

open QueryByName.Unicode (lowerForm lowerForm_ne_nil upperForm upperForm_ne_nil)

def raiseFirst : List Char → List Char
  | [] => []
  | first :: rest => upperForm first ++ rest

def lowerFirst : List Char → List Char
  | [] => []
  | first :: rest => lowerForm first ++ rest

theorem raiseFirst_eq_nil_iff {letters : List Char} : raiseFirst letters = [] ↔ letters = [] := by
  cases letters <;> simp [raiseFirst, upperForm_ne_nil]

theorem lowerFirst_eq_nil_iff {letters : List Char} : lowerFirst letters = [] ↔ letters = [] := by
  cases letters <;> simp [lowerFirst, lowerForm_ne_nil]

def capitalized (text : String) : String :=
  String.ofList (raiseFirst text.toList)

def uncapitalized (text : String) : String :=
  String.ofList (lowerFirst text.toList)

theorem capitalized_eq_empty_iff {text : String} : capitalized text = "" ↔ text = "" := by
  rw [← String.toList_inj, ← String.toList_inj]
  simp [capitalized, raiseFirst_eq_nil_iff]

theorem uncapitalized_eq_empty_iff {text : String} : uncapitalized text = "" ↔ text = "" := by
  rw [← String.toList_inj, ← String.toList_inj]
  simp [uncapitalized, lowerFirst_eq_nil_iff]

end QueryByName.Text
