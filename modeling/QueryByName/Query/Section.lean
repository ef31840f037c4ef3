import QueryByName.Finder.Word

/-!
# Sections of a finder

The words of a finder fall into sections: a field and the keywords up to the next field.
Keywords before the first field belong to no section and say nothing.
-/

namespace QueryByName.Query

open QueryByName.Finder (Keyword Word)
open QueryByName.Java (Field)

def leadingKeywords : List Word → List Keyword
  | .keyword keyword :: rest => keyword :: leadingKeywords rest
  | _ => []

/-- A field with the keywords that follow it. -/
structure Section where
  field : Field
  keywords : List Keyword

def sections : List Word → List Section
  | [] => []
  | .field field :: rest => ⟨field, leadingKeywords rest⟩ :: sections rest
  | .keyword _ :: rest => sections rest

end QueryByName.Query
