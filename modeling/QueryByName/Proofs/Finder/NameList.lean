import Mathlib.Data.List.Sort
import QueryByName.Proofs.Finder.BuiltNames

/-! # The list of names

The names up to a depth are the one increasing list of the names derived with at most so many fields
(`names_exact`).  Growing only the latest layer loses nothing: a depth more holds what the
names of all layers before it are extended to (`names_succ`).
-/

namespace QueryByName.Finder

open QueryByName.Java (Field ClassBody)

/-- Whether names may be built from a field, given the names of the fields to leave out. -/
structure Candidate (body : ClassBody) (exclusions : List String) (field : Field) : Prop where
  settable : field ∈ body.settable
  notExcluded : field.name ∉ exclusions
  notMap : field.type.isMap = false
  notTransient : field.isTransient = false
  notIdentifier : field.isIdentifier = false
  notVersion : field.isVersion = false
  notCollection : field.isCollection = false

variable {body : ClassBody} {exclusions : List String}

theorem mem_candidates_iff {field : Field} :
    field ∈ candidates body exclusions ↔ Candidate body exclusions field := by
  rw [candidates, List.mem_filter]
  simp only [Field.isCandidate, Bool.and_eq_true, Bool.not_eq_true', List.contains_eq_mem, decide_eq_false_iff_not]
  constructor
  · intro listed
    obtain ⟨settable, ⟨⟨⟨⟨notExcluded, notMap⟩, notTransient⟩, notIdentifier⟩, notVersion⟩, notCollection⟩ := listed
    exact ⟨settable, notExcluded, notMap, notTransient, notIdentifier, notVersion, notCollection⟩
  · intro candidate
    exact ⟨candidate.settable, ⟨⟨⟨⟨candidate.notExcluded, candidate.notMap⟩, candidate.notTransient⟩,
      candidate.notIdentifier⟩, candidate.notVersion⟩, candidate.notCollection⟩

theorem Offered.mem_candidates {body : ClassBody} {exclusions : List String} {clause : Clause}
    (offered : Offered body exclusions clause) : clause.field ∈ candidates body exclusions :=
  mem_candidates_iff.mpr ⟨offered.settable, offered.notExcluded, offered.notMap, offered.notTransient,
    offered.notIdentifier, offered.notVersion, offered.notCollection⟩

theorem mem_stubs_iff {field : Field} {stub : String} :
    stub ∈ field.stubs ↔
      stub = field.spelling ∨ ∃ keyword ∈ Keyword.forType field.type, stub = field.spelling ++ keyword.spelling := by
  rw [Field.stubs, List.mem_append, List.mem_singleton, List.mem_map, or_comm]
  simp only [eq_comm]

theorem increasing_namesOf (given : List String) : (namesOf given).Pairwise (· < ·) := by
  have increasing : Ordered.Increasing compare (namesOf given) := Ordered.increasing_ofList given
  refine increasing.imp fun before => ?_
  exact compareOfLessAndEq_eq_lt.mp before

/-- One more field is joined to every name so far, not only to the longest ones. -/
theorem names_succ (body : ClassBody) (plural : String) (depth : Nat) (exclusions : List String) :
    names body plural (depth + 1) exclusions =
      namesOf (firstLayer (lead plural) (candidates body exclusions) ++
        (names body plural depth exclusions).flatMap (extensions (candidates body exclusions))) := by
  refine (increasing_namesOf _).eq_of_mem_iff (increasing_namesOf _) fun name => ?_
  show name ∈ names body plural (depth + 1) exclusions ↔ _
  rw [mem_names_iff, mem_namesOf_iff, List.mem_append, mem_firstLayer_iff, List.mem_flatMap]
  constructor
  · intro derived
    obtain ⟨count, bound, built⟩ := derived
    cases built with
    | first candidate stubbed => exact .inl (.first candidate stubbed)
    | join connective shorter candidate fresh stubbed =>
      refine .inr ⟨_, mem_names_iff.mpr ⟨_, Nat.le_of_succ_le_succ bound, shorter⟩, ?_⟩
      exact mem_extensions_iff.mpr ⟨_, candidate, fresh, connective, _, stubbed, rfl⟩
  · rintro (first | ⟨shorter, present, extended⟩)
    · exact ⟨1, Nat.succ_le_succ (Nat.zero_le depth), first⟩
    · obtain ⟨count, bound, built⟩ := mem_names_iff.mp present
      exact ⟨count + 1, Nat.succ_le_succ bound, built.extend extended⟩

/-- The increasing list of the names that combine up to `depth` fields. -/
structure IsNameList (body : ClassBody) (plural : String) (depth : Nat) (exclusions : List String)
    (list : List String) : Prop where
  derived : ∀ name, name ∈ list ↔
    ∃ count, 1 ≤ count ∧ count ≤ depth ∧ Built (lead plural) (candidates body exclusions) count name
  increasing : list.Pairwise (· < ·)

theorem isNameList_names (body : ClassBody) (plural : String) (depth : Nat) (exclusions : List String) :
    IsNameList body plural depth exclusions (names body plural depth exclusions) := by
  refine ⟨fun name => ?_, increasing_namesOf _⟩
  rw [mem_names_iff]
  constructor
  · intro derived
    obtain ⟨count, bound, built⟩ := derived
    cases count with
    | zero => exact absurd built not_built_zero
    | succ count => exact ⟨count + 1, Nat.succ_le_succ (Nat.zero_le count), bound, built⟩
  · intro derived
    obtain ⟨count, _, bound, built⟩ := derived
    exact ⟨count, bound, built⟩

theorem IsNameList.unique {plural : String} {depth : Nat} {list other : List String}
    (left : IsNameList body plural depth exclusions list) (right : IsNameList body plural depth exclusions other) :
    list = other :=
  left.increasing.eq_of_mem_iff right.increasing fun name => (left.derived name).trans (right.derived name).symm

/-- The names of a class are exactly the derived ones, in increasing order, whatever the depth. -/
theorem names_exact (body : ClassBody) (plural : String) (depth : Nat) (exclusions : List String) :
    (∀ list, list = names body plural depth exclusions ↔ IsNameList body plural depth exclusions list) ∧
    (names body plural depth exclusions).Nodup ∧
    names body plural 0 exclusions = [] ∧
    names body plural (depth + 1) exclusions =
      namesOf (firstLayer (lead plural) (candidates body exclusions) ++
        (names body plural depth exclusions).flatMap (extensions (candidates body exclusions))) ∧
    (∀ field, field ∈ candidates body exclusions ↔ Candidate body exclusions field) ∧
    (∀ (field : Field) (stub : String), stub ∈ field.stubs ↔
      stub = field.spelling ∨ ∃ keyword ∈ Keyword.forType field.type, stub = field.spelling ++ keyword.spelling) := by
  have listed := isNameList_names body plural depth exclusions
  refine ⟨fun list => ⟨?_, fun other => other.unique listed⟩, ?_, rfl,
    names_succ body plural depth exclusions, fun _ => mem_candidates_iff, fun _ _ => mem_stubs_iff⟩
  · rintro rfl
    exact listed
  · refine listed.increasing.imp fun before same => ?_
    rw [same] at before
    exact String.lt_irrefl _ before

end QueryByName.Finder
