import QueryByName.Proofs.Finder.NameList
import QueryByName.Proofs.Java.SettableFields
import QueryByName.Query.Resolution

/-! # The order of declarations

Fields are looked up by name and the first one counts, of fields that are set twice the first one
counts again, and of fields of one spelling the last.  Where fields have names of their own none of
this depends on the order in which fields and methods are declared: the settable fields are the same,
so the names are (`names_of_reordered`), and with spellings of their own the lexicon is too, so every
finder is read and resolved to the same (`names_and_readings_of_reordered`).
-/

namespace QueryByName.Java

/-- Classes that declare the same fields and methods in another order. -/
structure Reordered (left right : ClassBody) : Prop where
  owner : left.owner = right.owner
  methods : left.methods.Perm right.methods
  fields : left.fields.Perm right.fields
  distinct : (left.fields.map (·.name)).Nodup

namespace Reordered

variable {left right : ClassBody}

theorem symm (reordered : Reordered left right) : Reordered right left where
  owner := reordered.owner.symm
  methods := reordered.methods.symm
  fields := reordered.fields.symm
  distinct := (reordered.fields.map _).nodup_iff.mp reordered.distinct

theorem field?_eq (reordered : Reordered left right) : left.field? = right.field? := by
  funext name
  apply Option.ext
  intro field
  rw [ClassBody.field?_eq_some_iff reordered.distinct, ClassBody.field?_eq_some_iff reordered.symm.distinct,
    reordered.fields.mem_iff]

theorem fieldSetBy?_eq (reordered : Reordered left right) : left.fieldSetBy? = right.fieldSetBy? := by
  funext setter
  rw [ClassBody.fieldSetBy?, ClassBody.fieldSetBy?, reordered.field?_eq]

theorem mem_settable_iff (reordered : Reordered left right) {field : Field} :
    field ∈ left.settable ↔ field ∈ right.settable := by
  rw [ClassBody.mem_settable_iff reordered.distinct, ClassBody.mem_settable_iff reordered.symm.distinct,
    reordered.fieldSetBy?_eq]
  have setters : left.setters.Perm right.setters := reordered.methods.filter _
  simp only [setters.mem_iff]

theorem mem_mentionable_iff (reordered : Reordered left right) {field : Field} :
    field ∈ left.mentionable ↔ field ∈ right.mentionable := by
  rw [ClassBody.mentionable, ClassBody.mentionable, List.mem_filter, List.mem_filter, reordered.mem_settable_iff]

end Reordered

end QueryByName.Java

namespace QueryByName.Finder

open QueryByName.Java (ClassBody Field Reordered)

variable {left right : ClassBody}

/-! ## Names -/

theorem Built.mono {lead : String} {fields others : List Field} (subset : ∀ field ∈ fields, field ∈ others)
    {count : Nat} {name : String} (built : Built lead fields count name) : Built lead others count name := by
  induction built with
  | first candidate stubbed => exact .first (subset _ candidate) stubbed
  | join connective _ candidate fresh stubbed inductionHypothesis =>
    exact .join connective inductionHypothesis (subset _ candidate) fresh stubbed

theorem mem_candidates_of_reordered (reordered : Reordered left right) {exclusions : List String} :
    ∀ field ∈ candidates left exclusions, field ∈ candidates right exclusions := by
  intro field listed
  obtain ⟨settable, roles⟩ := List.mem_filter.mp listed
  exact List.mem_filter.mpr ⟨reordered.mem_settable_iff.mp settable, roles⟩

theorem names_of_reordered (reordered : Reordered left right) (plural : String) (depth : Nat)
    (exclusions : List String) : names left plural depth exclusions = names right plural depth exclusions := by
  -- both lists are sorted, so the names in them decide
  refine (increasing_namesOf _).eq_of_mem_iff (increasing_namesOf _) fun name => ?_
  show name ∈ names left plural depth exclusions ↔ name ∈ names right plural depth exclusions
  rw [mem_names_iff, mem_names_iff]
  refine exists_congr fun count => and_congr_right fun _ => ?_
  exact ⟨Built.mono (mem_candidates_of_reordered reordered), Built.mono (mem_candidates_of_reordered reordered.symm)⟩

/-! ## Readings -/

/-- Where every field has a spelling of its own, all of them are in the lexicon. -/
theorem mem_lexicon_of_told {body : ClassBody}
    (told : ∀ field ∈ body.mentionable, ∀ other ∈ body.mentionable, field.spelling = other.spelling → field = other)
    {field : Field} : field ∈ body.lexicon ↔ field ∈ body.mentionable := by
  refine ⟨mem_mentionable_of_mem_lexicon, fun mentioned => ?_⟩
  obtain ⟨kept, listed, same⟩ := exists_mem_lexicon mentioned
  rwa [told field mentioned kept (mem_mentionable_of_mem_lexicon listed) same.symm]

theorem lexicon_of_reordered (reordered : Reordered left right)
    (spelledApart : (left.mentionable.map Field.spelling).Nodup) : left.lexicon = right.lexicon := by
  have told := List.inj_on_of_nodup_map spelledApart
  have rightTold : ∀ field ∈ right.mentionable, ∀ other ∈ right.mentionable,
      field.spelling = other.spelling → field = other := by
    intro field mentioned other otherMentioned
    exact told (reordered.mem_mentionable_iff.mpr mentioned) (reordered.mem_mentionable_iff.mpr otherMentioned)
  refine (increasing_lexicon left).eq_of_mem_iff (increasing_lexicon right) fun field => ?_
  rw [mem_lexicon_of_told told, mem_lexicon_of_told rightTold, reordered.mem_mentionable_iff]

theorem read_of_reordered (reordered : Reordered left right)
    (spelledApart : (left.mentionable.map Field.spelling).Nodup) (finder plural : String) :
    read left finder plural = read right finder plural := by
  have sameAnswer : answer left finder = answer right finder := by
    funext outcome
    cases outcome with
    | ok found => rfl
    | error fragment => rw [answer, answer, reordered.owner]
  rw [read, read, lexicon_of_reordered reordered spelledApart, sameAnswer]

end QueryByName.Finder

namespace QueryByName.Query

open QueryByName.Finder
open QueryByName.Java (ClassBody Field Method Reordered)

/-- The order of declarations decides neither which names are built nor how names are read. -/
theorem names_and_readings_of_reordered {left right : ClassBody} (reordered : Reordered left right) :
    (∀ (plural : String) (depth : Nat) (exclusions : List String),
      names left plural depth exclusions = names right plural depth exclusions) ∧
    ((left.mentionable.map Field.spelling).Nodup → ∀ finder plural : String,
      read left finder plural = read right finder plural ∧
      ∀ entityName entityAlias : String,
        resolve left finder plural entityName entityAlias = resolve right finder plural entityName entityAlias) := by
  refine ⟨names_of_reordered reordered, fun spelledApart finder plural => ?_⟩
  have sameReading := read_of_reordered reordered spelledApart finder plural
  refine ⟨sameReading, fun entityName entityAlias => ?_⟩
  rw [resolve, resolve, sameReading]

/-! ## Setters that are looked up in two ways -/

def numberField : Field :=
  ⟨"number", .named "int", false, false, []⟩

def labelField : Field :=
  ⟨"label", .named "java.lang.String", false, false, []⟩

/-- A setter that names no field, but whose parameter does. -/
def renamingSetter : Method where
  name := "setTitle"
  result := .named "void"
  parameters := [⟨"label", .named "java.lang.String"⟩]
  isPublic := true
  isStatic := false

def declaredBody : ClassBody where
  owner := .named "com.example.Person"
  fields := [numberField, labelField]
  methods := [.setterOf numberField, .setterOf labelField, renamingSetter]

def redeclaredBody : ClassBody where
  owner := .named "com.example.Person"
  fields := [labelField, numberField]
  methods := [renamingSetter, .setterOf numberField, .setterOf labelField]

theorem names_and_readings_of_redeclared :
    Reordered declaredBody redeclaredBody ∧ (declaredBody.mentionable.map Field.spelling).Nodup ∧
    (declaredBody.settable.map (·.name) = ["number", "label"] ∧
      redeclaredBody.settable.map (·.name) = ["label", "number"]) ∧
    names declaredBody "People" 2 [] = names redeclaredBody "People" 2 [] ∧
    resolve declaredBody "findPeopleByLabelAndNumberBetween" "People" "Person" "o" =
      resolve redeclaredBody "findPeopleByLabelAndNumberBetween" "People" "Person" "o" := by
  have rotated : declaredBody.methods.Perm redeclaredBody.methods :=
    (List.Perm.cons _ (.swap _ _ _)).trans (.swap _ _ _)
  have reordered : Reordered declaredBody redeclaredBody := ⟨rfl, rotated, .swap _ _ _, by decide⟩
  have spelledApart : (declaredBody.mentionable.map Field.spelling).Nodup := by decide +kernel
  obtain ⟨sameNames, sameReadings⟩ := names_and_readings_of_reordered reordered
  obtain ⟨_, sameResolutions⟩ := sameReadings spelledApart "findPeopleByLabelAndNumberBetween" "People"
  exact ⟨reordered, spelledApart, by decide +kernel, sameNames "People" 2 [], sameResolutions "Person" "o"⟩

end QueryByName.Query
