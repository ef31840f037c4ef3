import QueryByName.Finder.Reading
import QueryByName.Java.Entity

/-! # The last word of a name

A camel-case word begins with its only uppercase letter.  Wherever such a word ends a name, the name is
split exactly before it (`splitLastWord_append`): the word itself holds no later place to split at, and
its first letter rules out every earlier one.  The plural of the word is then formed without a look at
what stands before it, and an entity that is not given a plural takes over that of its name
(`plural_append`).
-/

namespace QueryByName.Text

open QueryByName.Finder (lead)
open QueryByName.Java (Entity)
open QueryByName.Unicode (isUppercase)

/-- Letters of which the first is uppercase and no other is. -/
inductive IsCamelWord : List Char → Prop where
  | letters {first : Char} {rest : List Char} (raised : isUppercase first = true)
      (small : ∀ letter ∈ rest, isUppercase letter = false) : IsCamelWord (first :: rest)

theorem IsCamelWord.any_isUppercase {word : List Char} (camel : IsCamelWord word) (head : List Char) :
    (head ++ word).any isUppercase = true := by
  cases camel with
  | letters raised _ => simp [raised]

theorem IsCamelWord.ne_nil {word : List Char} (camel : IsCamelWord word) : word ≠ [] := by
  rintro rfl
  cases camel

theorem splitLastWord_append (head : List Char) {word : List Char} (camel : IsCamelWord word) :
    splitLastWord (head ++ word) = (head, word) := by
  induction head with
  | nil =>
    cases camel with
    | @letters first rest _ small =>
      have single : rest.any isUppercase = false := by simpa using small
      rw [List.nil_append, splitLastWord, single]
      rfl
  | cons letter head inductionHypothesis =>
    -- the word still lies ahead, so the letter belongs to what stands before it
    rw [List.cons_append, splitLastWord, if_pos (camel.any_isUppercase head), inductionHypothesis]

theorem plural_of_camelWord (head : String) {word : String} (camel : IsCamelWord word.toList) :
    plural (head ++ word) = head ++ String.ofList (pluralWord word.toList) := by
  have nonempty : head ++ word ≠ "" := by
    rw [Ne, ← String.toList_inj, String.toList_append]
    simp [camel.ne_nil]
  rw [plural, if_neg nonempty, String.toList_append, splitLastWord_append head.toList camel, String.ofList_append,
    String.ofList_toList]

/-- The plural of a name that ends with a camel-case word is that of the word, after everything before
it; so are the plural of an entity of that name and the lead of its finders. -/
theorem plural_append (head : String) {word : String} (camel : IsCamelWord word.toList) :
    plural (head ++ word) = head ++ plural word ∧
    ∀ entity : Entity, entity.givenPlural? = none → entity.simpleName = head ++ word →
      entity.plural = head ++ plural word ∧ lead entity.plural = "find" ++ head ++ plural word ++ "By" := by
  have alone : plural word = String.ofList (pluralWord word.toList) := by
    have unled := plural_of_camelWord "" camel
    rwa [String.empty_append, String.empty_append] at unled
  have whole : plural (head ++ word) = head ++ plural word := by
    rw [plural_of_camelWord head camel, alone]
  refine ⟨whole, fun entity ungiven named => ?_⟩
  have taken : entity.plural = head ++ plural word := by
    rw [Entity.plural, ungiven, Option.getD_none, named, whole]
  refine ⟨taken, ?_⟩
  simp only [lead, taken, String.append_assoc]

def staffEntity : Entity where
  annotations := []
  body := .bean (.named "com.example.ÜberStaffPerson") []

theorem plural_append_staffPerson :
    (IsCamelWord "Person".toList ∧ staffEntity.givenPlural? = none ∧
      staffEntity.simpleName = "ÜberStaff" ++ "Person") ∧
    plural ("ÜberStaff" ++ "Person") = "ÜberStaff" ++ plural "Person" ∧
    staffEntity.plural = "ÜberStaff" ++ plural "Person" ∧
    lead staffEntity.plural = "find" ++ "ÜberStaff" ++ plural "Person" ++ "By" ∧
    plural "Person" = "People" := by
  have small : ∀ letter ∈ ['e', 'r', 's', 'o', 'n'], isUppercase letter = false := by
    simp only [List.forall_mem_cons, List.not_mem_nil, false_implies, implies_true, and_true]
    decide
  have camel : IsCamelWord "Person".toList := .letters (by decide) small
  have ungiven : staffEntity.givenPlural? = none := rfl
  have named : staffEntity.simpleName = "ÜberStaff" ++ "Person" := by decide +kernel
  obtain ⟨whole, ofEntity⟩ := plural_append "ÜberStaff" camel
  obtain ⟨taken, leads⟩ := ofEntity staffEntity ungiven named
  exact ⟨⟨camel, ungiven, named⟩, whole, taken, leads, by decide +kernel⟩

end QueryByName.Text
