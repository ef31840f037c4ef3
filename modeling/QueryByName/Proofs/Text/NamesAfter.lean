import Mathlib.Data.List.TakeWhile
import QueryByName.Proofs.Java.PlainIdentifier
import QueryByName.Text.Affix

/-! # Names after a sign

`namesAfter` reads off a text the identifiers that stand directly after a sign, such as the
parameters of a query after their colons.  A name goes as far as its letters go, so what is put
directly behind it becomes part of it: `namesIn_sign_append` says what a name comes to before any
further text, and `namesIn_skip` that text without the sign adds no names.
-/

namespace QueryByName.Text

open QueryByName.Java

/-- The identifiers that stand directly after a sign, from left to right. -/
def namesIn (sign : List Char) : List Char → List (List Char)
  | [] => []
  | letter :: text =>
    match dropLead? sign (letter :: text) with
    | none => namesIn sign text
    | some following =>
      if isPlainIdentifierText (following.takeWhile isNameLetter) then
        following.takeWhile isNameLetter :: namesIn sign text
      else namesIn sign text

def namesAfter (sign text : String) : List String :=
  (namesIn sign.toList text.toList).map String.ofList

/-- The name letters at the beginning of a text. -/
def nameLead (text : List Char) : List Char :=
  text.takeWhile isNameLetter

theorem nameLead_append_of_plain {name : List Char} (plain : isPlainIdentifierText name = true)
    (text : List Char) : nameLead (name ++ text) = name ++ nameLead text :=
  List.takeWhile_append_of_pos (isNameLetter_of_mem plain)

theorem nameLead_append_of_separate {further : List Char} (separate : nameLead further = []) (text : List Char) :
    nameLead (text ++ further) = nameLead text := by
  induction text with
  | nil => exact separate
  | cons letter text inductionHypothesis =>
    rw [nameLead] at inductionHypothesis ⊢
    rw [nameLead, List.cons_append, List.takeWhile_cons, List.takeWhile_cons, inductionHypothesis]
    rfl

theorem nameLead_cons_of_apart {letter : Char} (apart : isNameLetter letter = false) (text : List Char) :
    nameLead (letter :: text) = [] :=
  List.takeWhile_cons_of_neg (by simp [apart])

section Signs

variable {first : Char} {sign : List Char}

theorem namesIn_cons_of_ne {letter : Char} (other : letter ≠ first) (text : List Char) :
    namesIn (first :: sign) (letter :: text) = namesIn (first :: sign) text := by
  rw [namesIn, dropLead?, if_neg (Ne.symm other)]

theorem namesIn_skip {front : List Char} (absent : first ∉ front) (text : List Char) :
    namesIn (first :: sign) (front ++ text) = namesIn (first :: sign) text := by
  induction front with
  | nil => rfl
  | cons letter front inductionHypothesis =>
    rw [List.cons_append, namesIn_cons_of_ne (List.ne_of_not_mem_cons absent).symm,
      inductionHypothesis (List.not_mem_of_not_mem_cons absent)]

theorem namesIn_of_absent {text : List Char} (absent : first ∉ text) : namesIn (first :: sign) text = [] := by
  have skipped : namesIn (first :: sign) (text ++ []) = [] := namesIn_skip absent []
  rwa [List.append_nil] at skipped

/-- A name after the sign takes up the name letters that follow it. -/
theorem namesIn_sign_append (once : first ∉ sign) (apart : isNameLetter first = false) {name : List Char}
    (plain : isPlainIdentifierText name = true) (text : List Char) :
    namesIn (first :: sign) (first :: (sign ++ (name ++ text))) =
      (name ++ nameLead text) :: namesIn (first :: sign) text := by
  have dropped : dropLead? (first :: sign) (first :: (sign ++ (name ++ text))) = some (name ++ text) :=
    dropLead?_eq_some_iff.mpr (by simp)
  have whole : (name ++ text).takeWhile isNameLetter = name ++ nameLead text :=
    nameLead_append_of_plain plain text
  have continues : ∀ letter ∈ nameLead text, isNameLetter letter = true :=
    fun _ present => List.mem_takeWhile_imp present
  rw [namesIn, dropped]
  simp only [whole, isPlainIdentifierText_append plain continues, if_true]
  rw [namesIn_skip once, namesIn_skip (not_mem_of_not_nameLetter plain apart)]

theorem mem_namesIn_of_infix (once : first ∉ sign) (apart : isNameLetter first = false) {name : List Char}
    (plain : isPlainIdentifierText name = true) {letter : Char} (ends : isNameLetter letter = false)
    {text : List Char} (occurs : first :: (sign ++ (name ++ [letter])) <:+: text) :
    name ∈ namesIn (first :: sign) text := by
  obtain ⟨before, after, rfl⟩ := occurs
  induction before with
  | nil =>
    have whole : [] ++ first :: (sign ++ (name ++ [letter])) ++ after =
        first :: (sign ++ (name ++ letter :: after)) := by simp
    rw [whole, namesIn_sign_append once apart plain, nameLead_cons_of_apart ends, List.append_nil]
    exact List.mem_cons_self
  | cons skipped before inductionHypothesis =>
    rw [List.cons_append, List.cons_append, namesIn]
    split
    · exact inductionHypothesis
    · split
      · exact List.mem_cons_of_mem _ inductionHypothesis
      · exact inductionHypothesis

end Signs

theorem dropLead?_append_of_apart {sign further : List Char} (apart : ∀ letter ∈ further, letter ∉ sign)
    (text : List Char) :
    dropLead? sign (text ++ further) = (dropLead? sign text).map (· ++ further) := by
  induction sign generalizing text with
  | nil => rfl
  | cons expected sign inductionHypothesis =>
    have restApart : ∀ letter ∈ further, letter ∉ sign :=
      fun letter present => List.not_mem_of_not_mem_cons (apart letter present)
    cases text with
    | cons letter text =>
      rw [List.cons_append, dropLead?, dropLead?]
      by_cases same : expected = letter
      · rw [if_pos same, if_pos same, inductionHypothesis restApart]
      · rw [if_neg same, if_neg same, Option.map_none]
    | nil =>
      cases further with
      | nil => rfl
      | cons letter further =>
        have other : letter ≠ expected := List.ne_of_not_mem_cons (apart letter List.mem_cons_self)
        rw [List.nil_append, dropLead?, Option.map_none, dropLead?, if_neg (Ne.symm other)]

/-- Text that shares no letter with the sign and begins with no name letter changes no name before it. -/
theorem namesIn_append_of_apart {first : Char} {sign further : List Char}
    (apart : ∀ letter ∈ further, letter ∉ first :: sign) (separate : nameLead further = []) (text : List Char) :
    namesIn (first :: sign) (text ++ further) = namesIn (first :: sign) text := by
  induction text with
  | nil =>
    have absent : first ∉ further := fun present => apart first present List.mem_cons_self
    rw [List.nil_append, namesIn_of_absent absent, namesIn]
  | cons letter text inductionHypothesis =>
    have dropped : dropLead? (first :: sign) (letter :: (text ++ further)) =
        (dropLead? (first :: sign) (letter :: text)).map (· ++ further) :=
      dropLead?_append_of_apart apart (letter :: text)
    rw [List.cons_append, namesIn, namesIn, dropped, inductionHypothesis]
    cases dropLead? (first :: sign) (letter :: text) with
    | none => rfl
    | some following =>
      have same : (following ++ further).takeWhile isNameLetter = following.takeWhile isNameLetter :=
        nameLead_append_of_separate separate following
      simp only [Option.map_some, same]

theorem namesIn_withoutTail {first : Char} {sign : List Char} {tail : String}
    (apart : (tail.toList.all fun letter => !(first :: sign).contains letter) = true)
    (separate : nameLead tail.toList = []) (text : String) :
    namesIn (first :: sign) (withoutTail tail text).toList = namesIn (first :: sign) text.toList := by
  have absent : ∀ letter ∈ tail.toList, letter ∉ first :: sign := by
    intro letter present
    have checked := List.all_eq_true.mp apart letter present
    simpa using checked
  rw [withoutTail]
  split
  · rename_i rest dropped
    have split : text.toList = rest.reverse ++ tail.toList := by
      rw [← List.reverse_inj, dropLead?_eq_some_iff.mp dropped, List.reverse_append, List.reverse_reverse]
    rw [split, String.toList_ofList, namesIn_append_of_apart absent separate]
  · rfl

end QueryByName.Text
