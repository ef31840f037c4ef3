import QueryByName.Java.TypeExpr

/-! # Types and their displayed texts

The display of a type has no escapes and one separator for all depths, so a text shows a type only if
the signs of the display stay out of the names.  They are all that has to: names may be empty, begin
with a blank, or stand next to each other's brackets.

`eq_of_display_append` carries the argument.  Whatever closes an argument may follow, the display of a
type ends in one place only.  A name ends at the first sign behind it.  A bracket right there opens the
arguments, and each of them is delimited by the same statement about a smaller type.
-/

namespace QueryByName.Java.TypeExpr

/-- Whether a character is one that displays put between names. -/
def isSign (letter : Char) : Bool :=
  letter == '<' || letter == '>' || letter == ','

mutual

/-- The names in a type, at every depth. -/
def names : TypeExpr → List String
  | ⟨name, arguments⟩ => name :: namesOfAll arguments

def namesOfAll : List TypeExpr → List String
  | [] => []
  | first :: rest => names first ++ namesOfAll rest

end

/-- Whether no name in a list contains a sign of the display. -/
def SignFree (names : List String) : Prop :=
  ∀ name ∈ names, ∀ letter ∈ name.toList, isSign letter = false

instance (names : List String) : Decidable (SignFree names) :=
  decidable_of_iff ((names.all fun name => name.toList.all fun letter => !isSign letter) = true) (by simp [SignFree])

theorem signFree_cons {name : String} {names : List String} :
    SignFree (name :: names) ↔ (∀ letter ∈ name.toList, isSign letter = false) ∧ SignFree names :=
  List.forall_mem_cons

theorem signFree_append {names further : List String} :
    SignFree (names ++ further) ↔ SignFree names ∧ SignFree further :=
  List.forall_mem_append

/-! ## Where a name ends -/

/-- Whether a text is at its end or goes on with a sign. -/
def Signed (text : List Char) : Prop :=
  ∀ letter ∈ text.head?, isSign letter = true

/-- Whether a text is at its end or goes on behind a complete argument. -/
def Closes (text : List Char) : Prop :=
  ∀ letter ∈ text.head?, letter = '>' ∨ letter = ','

theorem Closes.signed {text : List Char} (closes : Closes text) : Signed text := by
  intro letter first
  obtain rfl | rfl := closes letter first <;> rfl

theorem takeWhile_name {name rest : List Char} (clean : ∀ letter ∈ name, isSign letter = false)
    (signed : Signed rest) : (name ++ rest).takeWhile (!isSign ·) = name := by
  rw [List.takeWhile_append_of_pos fun letter present => by rw [clean letter present]; rfl]
  cases rest with
  | nil => simp
  | cons letter rest =>
    have sign : isSign letter = true := signed letter rfl
    simp [sign]

theorem eq_of_name_append {name other rest otherRest : List Char}
    (clean : ∀ letter ∈ name, isSign letter = false) (otherClean : ∀ letter ∈ other, isSign letter = false)
    (signed : Signed rest) (otherSigned : Signed otherRest) (same : name ++ rest = other ++ otherRest) :
    name = other ∧ rest = otherRest := by
  have sameName : name = other := by
    rw [← takeWhile_name clean signed, same, takeWhile_name otherClean otherSigned]
  subst sameName
  exact ⟨rfl, List.append_cancel_left same⟩

/-! ## Where a type ends -/

theorem toList_displayArguments_cons (first : TypeExpr) (rest : List TypeExpr) (text : List Char) :
    (displayArguments (first :: rest)).toList ++ text =
      '<' :: ((display first).toList ++ ((displayMore rest).toList ++ '>' :: text)) := by
  simp [displayArguments]

theorem toList_displayMore_cons (next : TypeExpr) (rest : List TypeExpr) (text : List Char) :
    (displayMore (next :: rest)).toList ++ text =
      ',' :: ' ' :: ((display next).toList ++ ((displayMore rest).toList ++ text)) := by
  simp [displayMore]

theorem signed_displayArguments (arguments : List TypeExpr) {text : List Char} (closes : Closes text) :
    Signed ((displayArguments arguments).toList ++ text) := by
  cases arguments with
  | nil => exact closes.signed
  | cons first rest =>
    rw [toList_displayArguments_cons]
    rintro _ ⟨rfl⟩
    rfl

theorem closes_displayMore (arguments : List TypeExpr) (text : List Char) :
    Closes ((displayMore arguments).toList ++ '>' :: text) := by
  cases arguments with
  | nil =>
    rintro _ ⟨rfl⟩
    exact .inl rfl
  | cons next rest =>
    rw [toList_displayMore_cons]
    rintro _ ⟨rfl⟩
    exact .inr rfl

mutual

/-- Before what closes an argument, the display of a type tells the type and where it ends. -/
theorem eq_of_display_append : ∀ (left right : TypeExpr), SignFree left.names → SignFree right.names →
    ∀ {text other : List Char}, Closes text → Closes other →
      left.display.toList ++ text = right.display.toList ++ other → left = right ∧ text = other
  | ⟨name, arguments⟩, ⟨otherName, otherArguments⟩, free, otherFree, text, other, closes, otherCloses, same => by
    obtain ⟨clean, free⟩ := signFree_cons.mp free
    obtain ⟨otherClean, otherFree⟩ := signFree_cons.mp otherFree
    simp only [display, String.toList_append, List.append_assoc] at same
    obtain ⟨sameName, same⟩ := eq_of_name_append clean otherClean (signed_displayArguments arguments closes)
      (signed_displayArguments otherArguments otherCloses) same
    obtain ⟨rfl, sameText⟩ :=
      eq_of_displayArguments_append arguments otherArguments free otherFree closes otherCloses same
    obtain rfl := String.toList_inj.mp sameName
    exact ⟨rfl, sameText⟩

theorem eq_of_displayArguments_append : ∀ (lefts rights : List TypeExpr),
    SignFree (namesOfAll lefts) → SignFree (namesOfAll rights) →
    ∀ {text other : List Char}, Closes text → Closes other →
      (displayArguments lefts).toList ++ text = (displayArguments rights).toList ++ other →
        lefts = rights ∧ text = other
  | [], [], _, _, _, _, _, _, same => ⟨rfl, same⟩
  | [], right :: rights, _, _, text, other, closes, _, same => by
    -- a bracket closes no argument
    rw [toList_displayArguments_cons] at same
    have opened : text.head? = some '<' := congrArg List.head? same
    have wrong := closes '<' opened
    simp at wrong
  | left :: lefts, [], _, _, text, other, _, otherCloses, same => by
    rw [toList_displayArguments_cons] at same
    have opened : other.head? = some '<' := (congrArg List.head? same).symm
    have wrong := otherCloses '<' opened
    simp at wrong
  | left :: lefts, right :: rights, free, otherFree, text, other, _, _, same => by
    obtain ⟨free, freeRest⟩ := signFree_append.mp free
    obtain ⟨otherFree, otherFreeRest⟩ := signFree_append.mp otherFree
    rw [toList_displayArguments_cons, toList_displayArguments_cons] at same
    obtain ⟨rfl, sameRest⟩ := eq_of_display_append left right free otherFree (closes_displayMore lefts text)
      (closes_displayMore rights other) (List.cons.inj same).2
    obtain ⟨rfl, sameText⟩ := eq_of_displayMore_append lefts rights freeRest otherFreeRest sameRest
    exact ⟨rfl, sameText⟩

theorem eq_of_displayMore_append : ∀ (lefts rights : List TypeExpr),
    SignFree (namesOfAll lefts) → SignFree (namesOfAll rights) → ∀ {text other : List Char},
      (displayMore lefts).toList ++ '>' :: text = (displayMore rights).toList ++ '>' :: other →
        lefts = rights ∧ text = other
  | [], [], _, _, _, _, same => ⟨rfl, (List.cons.inj same).2⟩
  | [], right :: rights, _, _, _, _, same => by
    rw [toList_displayMore_cons] at same
    cases (List.cons.inj same).1
  | left :: lefts, [], _, _, _, _, same => by
    rw [toList_displayMore_cons] at same
    cases (List.cons.inj same).1
  | left :: lefts, right :: rights, free, otherFree, text, other, same => by
    obtain ⟨free, freeRest⟩ := signFree_append.mp free
    obtain ⟨otherFree, otherFreeRest⟩ := signFree_append.mp otherFree
    rw [toList_displayMore_cons, toList_displayMore_cons] at same
    obtain ⟨rfl, sameRest⟩ := eq_of_display_append left right free otherFree (closes_displayMore lefts text)
      (closes_displayMore rights other) (List.cons.inj (List.cons.inj same).2).2
    obtain ⟨rfl, sameText⟩ := eq_of_displayMore_append lefts rights freeRest otherFreeRest sameRest
    exact ⟨rfl, sameText⟩

end

/-- Types whose names are free of signs are displayed alike only if they are the same. -/
theorem display_eq_iff {left right : TypeExpr} (leftFree : SignFree left.names) (rightFree : SignFree right.names) :
    left.display = right.display ↔ left = right := by
  have ended : Closes [] := by simp [Closes]
  constructor
  · intro same
    have letters : left.display.toList ++ [] = right.display.toList ++ [] := by rw [same]
    exact (eq_of_display_append left right leftFree rightFree ended ended letters).1
  · exact congrArg display

/-- Two types that differ in where a blank name stands, one level apart. -/
theorem display_eq_iff_blank :
    SignFree (names ⟨"Map", [⟨"", [named " "]⟩, named ""]⟩) ∧ SignFree (names ⟨"Map", [⟨"", [named ""]⟩, named " "]⟩) ∧
    display ⟨"Map", [⟨"", [named " "]⟩, named ""]⟩ = "Map<< >, >" ∧
    (display ⟨"Map", [⟨"", [named " "]⟩, named ""]⟩ = display ⟨"Map", [⟨"", [named ""]⟩, named " "]⟩ ↔
      (⟨"Map", [⟨"", [named " "]⟩, named ""]⟩ : TypeExpr) = ⟨"Map", [⟨"", [named ""]⟩, named " "]⟩) :=
  ⟨by decide, by decide, by decide, display_eq_iff (by decide) (by decide)⟩

/-- A comma in a name is taken for the end of an argument. -/
example : display ⟨"Map", [named "K, V"]⟩ = display ⟨"Map", [named "K", named "V"]⟩ := by decide

end QueryByName.Java.TypeExpr
