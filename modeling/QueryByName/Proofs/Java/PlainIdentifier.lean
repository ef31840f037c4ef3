import QueryByName.Finder.Word

/-! # Plain identifiers

Identifiers made of ASCII letters, digits, underscores and dollar signs.  They are the names that
stand in queries and methods without being taken for anything else: no sign that a text is put
together with is a letter of one, and raising the first letter of one gives one again.
-/

namespace QueryByName.Java

def beginsPlainIdentifier (letter : Char) : Bool :=
  letter.isAlpha || letter == '_' || letter == '$'

def isPlainIdentifierText : List Char → Bool
  | [] => false
  | first :: rest =>
    beginsPlainIdentifier first && rest.all fun letter => beginsPlainIdentifier letter || letter.isDigit

def isPlainIdentifier (text : String) : Bool :=
  isPlainIdentifierText text.toList

/-- Whether a text is an identifier of ASCII that begins with a lowercase letter. -/
def isPlainFieldName (text : String) : Bool :=
  isPlainIdentifier text && text.toList.head?.any Char.isLower

def isNameLetter (letter : Char) : Bool :=
  beginsPlainIdentifier letter || letter.isDigit

theorem isPlainIdentifierText_cons {first : Char} {rest : List Char} :
    isPlainIdentifierText (first :: rest) = true ↔
      beginsPlainIdentifier first = true ∧ ∀ letter ∈ rest, isNameLetter letter = true := by
  simp [isPlainIdentifierText, isNameLetter]

theorem isNameLetter_of_mem {name : List Char} (plain : isPlainIdentifierText name = true) :
    ∀ letter ∈ name, isNameLetter letter = true := by
  cases name with
  | nil => cases plain
  | cons first rest =>
    obtain ⟨begins, continues⟩ := isPlainIdentifierText_cons.mp plain
    refine List.forall_mem_cons.mpr ⟨?_, continues⟩
    rw [isNameLetter, begins, Bool.true_or]

theorem isPlainIdentifierText_append {name further : List Char} (plain : isPlainIdentifierText name = true)
    (continues : ∀ letter ∈ further, isNameLetter letter = true) :
    isPlainIdentifierText (name ++ further) = true := by
  cases name with
  | nil => cases plain
  | cons first rest =>
    obtain ⟨begins, restContinues⟩ := isPlainIdentifierText_cons.mp plain
    refine isPlainIdentifierText_cons.mpr ⟨begins, fun letter present => ?_⟩
    cases List.mem_append.mp present with
    | inl inRest => exact restContinues letter inRest
    | inr inFurther => exact continues letter inFurther

theorem not_mem_of_not_nameLetter {name : List Char} (plain : isPlainIdentifierText name = true)
    {letter : Char} (apart : isNameLetter letter = false) : letter ∉ name := by
  intro present
  rw [isNameLetter_of_mem plain letter present] at apart
  cases apart

/-! ## Raising the first letter -/

theorem toNat_lt_of_beginsPlainIdentifier {letter : Char} (begins : beginsPlainIdentifier letter = true) :
    letter.toNat < 128 := by
  have code : letter.toNat = letter.val.toNat := rfl
  have lastCapital : 'Z'.val.toNat = 90 := rfl
  have lastSmall : 'z'.val.toNat = 122 := rfl
  rw [beginsPlainIdentifier, Bool.or_eq_true, Bool.or_eq_true, beq_iff_eq, beq_iff_eq] at begins
  obtain (alphabetic | rfl) | rfl := begins
  · have ranges : (decide (letter.val ≥ 'A'.val ∧ letter.val ≤ 'Z'.val) ||
        (decide (letter.val ≥ 'a'.val) && decide (letter.val ≤ 'z'.val))) = true := alphabetic
    simp only [Bool.or_eq_true, Bool.and_eq_true, decide_eq_true_eq, UInt32.le_iff_toNat_le, ge_iff_le] at ranges
    omega
  · decide
  · decide

theorem raise_plain {letter : Char} (begins : beginsPlainIdentifier letter = true) :
    ∃ raised, Unicode.upperForm letter = [raised] ∧ beginsPlainIdentifier raised = true := by
  have checked : ∀ point < 128, beginsPlainIdentifier (Char.ofNat point) = true →
      (Unicode.upperForm (Char.ofNat point)).length = 1 ∧
        (Unicode.upperForm (Char.ofNat point)).all beginsPlainIdentifier = true := by
    decide +kernel
  have facts := checked letter.toNat (toNat_lt_of_beginsPlainIdentifier begins)
  rw [Char.ofNat_toNat] at facts
  obtain ⟨single, raisedBegins⟩ := facts begins
  obtain ⟨raised, form⟩ := List.length_eq_one_iff.mp single
  refine ⟨raised, form, List.all_eq_true.mp raisedBegins raised ?_⟩
  rw [form]
  exact List.mem_singleton_self raised

theorem isPlainIdentifier_capitalized {text : String} (plain : isPlainIdentifier text = true) :
    isPlainIdentifier (Text.capitalized text) = true := by
  rw [isPlainIdentifier] at plain ⊢
  rw [Text.capitalized, String.toList_ofList]
  cases letters : text.toList with
  | nil =>
    rw [letters] at plain
    cases plain
  | cons first rest =>
    rw [letters] at plain
    obtain ⟨begins, continues⟩ := isPlainIdentifierText_cons.mp plain
    obtain ⟨raised, form, raisedBegins⟩ := raise_plain begins
    rw [Text.raiseFirst, form, List.singleton_append]
    exact isPlainIdentifierText_cons.mpr ⟨raisedBegins, continues⟩

end QueryByName.Java
