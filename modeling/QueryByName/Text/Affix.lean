/-!
# Beginnings and parts of a text

Looking for a lead at the beginning of a text, for a part anywhere in it, and for what
stands after its last separator.

* `dropLead?_eq_some_iff`: dropping a lead succeeds exactly on the texts that begin with it.
* `occursIn_iff`: a part occurs in a text exactly when the text is something, the part, and
  something more.
-/

namespace QueryByName.Text

/-- What follows `lead` in a text that begins with it. -/
def dropLead? : List Char → List Char → Option (List Char)
  | [], text => some text
  | _ :: _, [] => none
  | expected :: lead, character :: text =>
    if expected = character then dropLead? lead text else none

theorem dropLead?_eq_some_iff {lead text rest : List Char} :
    dropLead? lead text = some rest ↔ text = lead ++ rest := by
  induction lead generalizing text with
  | nil => simp [dropLead?]
  | cons expected lead inductionHypothesis =>
      cases text with
      | nil => simp [dropLead?]
      | cons character text =>
          by_cases same : expected = character
          · simp [dropLead?, same, inductionHypothesis]
          · simp [dropLead?, same, Ne.symm same]

theorem dropLead?_eq_none_iff {lead text : List Char} : dropLead? lead text = none ↔ ¬ lead <+: text := by
  cases dropped : dropLead? lead text with
  | none =>
      have absent : ¬ lead <+: text := by
        intro begins
        obtain ⟨rest, split⟩ := begins
        rw [dropLead?_eq_some_iff.mpr split.symm] at dropped
        cases dropped
      simp [absent]
  | some rest =>
      have begins : lead <+: text := ⟨rest, (dropLead?_eq_some_iff.mp dropped).symm⟩
      simp [begins]

/-- Whether `part` stands somewhere in a text. -/
def occursIn (part : List Char) : List Char → Bool
  | [] => part.isEmpty
  | character :: text => part.isPrefixOf (character :: text) || occursIn part text

theorem occursIn_iff {part text : List Char} : occursIn part text = true ↔ part <:+: text := by
  induction text with
  | nil => simp [occursIn]
  | cons character text inductionHypothesis =>
      simp [occursIn, inductionHypothesis, List.infix_cons_iff]

/-- What follows `lead` in a text that begins with it. -/
def afterLead? (lead text : String) : Option String :=
  (dropLead? lead.toList text.toList).map String.ofList

theorem afterLead?_eq_some_iff {lead text rest : String} :
    afterLead? lead text = some rest ↔ text = lead ++ rest := by
  simp only [afterLead?, Option.map_eq_some_iff, dropLead?_eq_some_iff]
  constructor
  · rintro ⟨letters, split, rfl⟩
    rw [← String.toList_inj, String.toList_append, String.toList_ofList, split]
  · rintro rfl
    exact ⟨rest.toList, String.toList_append, String.ofList_toList⟩

theorem afterLead?_eq_none_iff {lead text : String} :
    afterLead? lead text = none ↔ ¬ lead.toList <+: text.toList := by
  rw [afterLead?, Option.map_eq_none_iff, dropLead?_eq_none_iff]

/-- Whether `part` stands somewhere in `text`. -/
def contains (part text : String) : Bool :=
  occursIn part.toList text.toList

theorem contains_iff {part text : String} : contains part text = true ↔ part.toList <:+: text.toList :=
  occursIn_iff

/-- A text without one `tail` at its end; the text itself if it ends otherwise. -/
def withoutTail (tail text : String) : String :=
  match dropLead? tail.toList.reverse text.toList.reverse with
  | some rest => String.ofList rest.reverse
  | none => text

/-- What stands after the last `separator`; the whole text if there is none. -/
def afterLast (separator : Char) (text : String) : String :=
  String.ofList (text.toList.reverse.takeWhile (· != separator)).reverse

end QueryByName.Text
