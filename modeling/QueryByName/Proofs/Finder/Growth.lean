import Mathlib.Data.Finset.Card
import QueryByName.Proofs.Finder.NameList

/-! # How names grow

`Grown` derives what stands after the lead of a name and keeps the fields that were joined, in their
order.  Which fields may join a text is left open: under the guard of the generator it derives the
names of a class (`mem_names_iff_grown`).

Every field that was joined stands in the text, so a guard against the fields that occur never lets
two fields of one spelling into a derivation.  Derivations are no longer than there are spellings,
and a depth beyond that number adds no name (`names_saturate`).
-/

namespace QueryByName.Finder

open QueryByName.Java (Field ClassBody)

/-- The texts that combine the given fields, with the fields in the order in which they joined. -/
inductive Grown (admits : String → Field → Prop) (fields : List Field) : List Field → String → Prop where
  | first {field : Field} {stub : String} (candidate : field ∈ fields) (stubbed : stub ∈ field.stubs) :
      Grown admits fields [field] stub
  | join {joined : List Field} {text stub : String} {field : Field} (connective : Connective)
      (shorter : Grown admits fields joined text) (candidate : field ∈ fields) (admitted : admits text field)
      (stubbed : stub ∈ field.stubs) :
      Grown admits fields (joined ++ [field]) (text ++ connective.val.spelling ++ stub)

/-- Whether the spelling of a field does not occur in a text. -/
def Absent (text : String) (field : Field) : Prop :=
  ¬ field.spelling.toList <:+: text.toList

/-- The guard of the generator: a field joins a text if it does not occur in the name so far. -/
def AbsentAfter (lead text : String) : Field → Prop :=
  Absent (lead ++ text)

variable {admits : String → Field → Prop} {fields joined : List Field} {lead text : String}

theorem Absent.of_append {field : Field} (absent : Absent (lead ++ text) field) : Absent text field := by
  intro occurs
  apply absent
  rw [String.toList_append]
  exact occurs.trans (List.suffix_append _ _).isInfix

/-! ## Derivations of names -/

theorem built_iff_grown {count : Nat} {name : String} :
    Built lead fields count name ↔
      ∃ joined text, joined.length = count ∧ name = lead ++ text ∧ Grown (AbsentAfter lead) fields joined text := by
  constructor
  · intro built
    induction built with
    | first candidate stubbed => exact ⟨_, _, rfl, rfl, .first candidate stubbed⟩
    | join connective _ candidate fresh stubbed inductionHypothesis =>
      obtain ⟨joined, text, rfl, rfl, grown⟩ := inductionHypothesis
      refine ⟨_, _, List.length_append, ?_, .join connective grown candidate fresh stubbed⟩
      rw [String.append_assoc, String.append_assoc, String.append_assoc]
  · rintro ⟨joined, text, rfl, rfl, grown⟩
    induction grown with
    | first candidate stubbed => exact .first candidate stubbed
    | join connective _ candidate admitted stubbed inductionHypothesis =>
      rw [List.length_append, ← String.append_assoc, ← String.append_assoc]
      exact .join connective inductionHypothesis candidate admitted stubbed

theorem mem_names_iff_grown {body : ClassBody} {plural : String} {depth : Nat} {exclusions : List String}
    {name : String} :
    name ∈ names body plural depth exclusions ↔
      ∃ joined text, joined.length ≤ depth ∧ name = Finder.lead plural ++ text ∧
        Grown (AbsentAfter (Finder.lead plural)) (candidates body exclusions) joined text := by
  rw [mem_names_iff]
  constructor
  · rintro ⟨count, bound, built⟩
    obtain ⟨joined, text, rfl, spelled, grown⟩ := built_iff_grown.mp built
    exact ⟨joined, text, bound, spelled, grown⟩
  · rintro ⟨joined, text, bound, spelled, grown⟩
    exact ⟨_, bound, built_iff_grown.mpr ⟨joined, text, rfl, spelled, grown⟩⟩

/-! ## The fields of a derivation -/

theorem Grown.subset (grown : Grown admits fields joined text) : joined ⊆ fields := by
  induction grown with
  | first candidate _ =>
    intro field here
    rwa [List.mem_singleton.mp here]
  | join _ _ candidate _ _ inductionHypothesis =>
    intro field present
    cases List.mem_append.mp present with
    | inl earlier => exact inductionHypothesis earlier
    | inr last => rwa [List.mem_singleton.mp last]

theorem spelling_prefix_of_mem_stubs {field : Field} {stub : String} (stubbed : stub ∈ field.stubs) :
    field.spelling.toList <+: stub.toList := by
  cases mem_stubs_iff.mp stubbed with
  | inl alone => rw [alone]
  | inr suffixed =>
    obtain ⟨keyword, _, rfl⟩ := suffixed
    rw [String.toList_append]
    exact List.prefix_append _ _

theorem Grown.spelling_infix (grown : Grown admits fields joined text) :
    ∀ field ∈ joined, field.spelling.toList <:+: text.toList := by
  induction grown with
  | first _ stubbed =>
    intro field here
    rw [List.mem_singleton.mp here]
    exact (spelling_prefix_of_mem_stubs stubbed).isInfix
  | join connective _ _ _ stubbed inductionHypothesis =>
    intro field present
    rw [String.toList_append]
    cases List.mem_append.mp present with
    | inl earlier =>
      -- the text so far is a beginning of the longer one
      have within := inductionHypothesis field earlier
      rw [String.toList_append, List.append_assoc]
      exact within.trans (List.prefix_append _ _).isInfix
    | inr last =>
      rw [List.mem_singleton.mp last]
      exact (spelling_prefix_of_mem_stubs stubbed).isInfix.trans (List.suffix_append _ _).isInfix

/-- A guard against the fields that occur keeps the spellings of a derivation apart. -/
theorem Grown.nodup_spellings (guarded : ∀ text field, admits text field → Absent text field)
    (grown : Grown admits fields joined text) : (joined.map (·.spelling)).Nodup := by
  induction grown with
  | first => exact List.pairwise_singleton _ _
  | join _ shorter _ admitted _ inductionHypothesis =>
    rw [List.map_append]
    refine nodup_concat_of_not_infix inductionHypothesis ?_ (guarded _ _ admitted)
    intro earlier present
    obtain ⟨field, standing, rfl⟩ := List.mem_map.mp present
    exact shorter.spelling_infix field standing

/-! ## Saturation -/

/-- The number of spellings among the fields that names may be built from. -/
def spellingCount (body : ClassBody) (exclusions : List String) : Nat :=
  ((candidates body exclusions).map (·.spelling)).toFinset.card

theorem length_le_spellingCount {body : ClassBody} {exclusions : List String}
    (grown : Grown (AbsentAfter lead) (candidates body exclusions) joined text) :
    joined.length ≤ spellingCount body exclusions := by
  have apart := grown.nodup_spellings fun _ _ absent => absent.of_append
  have among : (joined.map (·.spelling)).toFinset ⊆ ((candidates body exclusions).map (·.spelling)).toFinset := by
    intro spelling present
    obtain ⟨field, standing, rfl⟩ := List.mem_map.mp (List.mem_toFinset.mp present)
    exact List.mem_toFinset.mpr (List.mem_map_of_mem (grown.subset standing))
  calc joined.length
    _ = (joined.map (·.spelling)).length := List.length_map _ |>.symm
    _ = (joined.map (·.spelling)).toFinset.card := (List.toFinset_card_of_nodup apart).symm
    _ ≤ spellingCount body exclusions := Finset.card_le_card among

theorem names_mono {body : ClassBody} {plural : String} {depth deeper : Nat} (bound : depth ≤ deeper)
    {exclusions : List String} : names body plural depth exclusions ⊆ names body plural deeper exclusions := by
  intro name listed
  obtain ⟨joined, text, short, derived⟩ := mem_names_iff_grown.mp listed
  exact mem_names_iff_grown.mpr ⟨joined, text, short.trans bound, derived⟩

theorem names_of_spellingCount_le {body : ClassBody} {plural : String} {depth : Nat} {exclusions : List String}
    (enough : spellingCount body exclusions ≤ depth) :
    names body plural depth exclusions = names body plural (spellingCount body exclusions) exclusions := by
  refine (increasing_namesOf _).eq_of_mem_iff (increasing_namesOf _) fun name =>
    ⟨fun listed => ?_, fun listed => names_mono enough listed⟩
  obtain ⟨joined, text, _, spelled, grown⟩ := mem_names_iff_grown.mp listed
  exact mem_names_iff_grown.mpr ⟨joined, text, length_le_spellingCount grown, spelled, grown⟩

/-- A deeper list holds the names of a shallower one, and from the number of spellings on no depth
adds a name: in every derivation of a name the spellings of the fields differ. -/
theorem names_saturate (body : ClassBody) (plural : String) (exclusions : List String) :
    (∀ depth, names body plural depth exclusions ⊆ names body plural (depth + 1) exclusions) ∧
    (∀ depth, spellingCount body exclusions ≤ depth →
      names body plural depth exclusions = names body plural (spellingCount body exclusions) exclusions) ∧
    (∀ (depth : Nat) (name : String), name ∈ names body plural depth exclusions ↔
      ∃ joined text, joined.length ≤ depth ∧ name = Finder.lead plural ++ text ∧
        Grown (AbsentAfter (Finder.lead plural)) (candidates body exclusions) joined text) ∧
    (∀ (joined : List Field) (text : String),
      Grown (AbsentAfter (Finder.lead plural)) (candidates body exclusions) joined text →
        (joined.map (·.spelling)).Nodup ∧ joined.length ≤ spellingCount body exclusions) := by
  refine ⟨fun depth => names_mono (Nat.le_succ depth), fun depth => names_of_spellingCount_le, fun _ _ =>
    mem_names_iff_grown, fun joined text grown => ⟨?_, length_le_spellingCount grown⟩⟩
  exact grown.nodup_spellings fun _ _ absent => absent.of_append

/-- The spelling of one field ends that of another, and the plural holds that of a third. -/
def nestedBean : ClassBody :=
  .bean (.named "com.example.Person")
    [⟨"name", .named "com.example.Name", false, false, []⟩, ⟨"maidenName", .named "com.example.Name", false, false, []⟩,
      ⟨"people", .named "com.example.Group", false, false, []⟩]

theorem names_saturate_nested :
    spellingCount nestedBean [] = 3 ∧ spellingCount nestedBean [] ≤ 100 ∧
    names nestedBean "People" 100 [] = names nestedBean "People" (spellingCount nestedBean []) [] ∧
    ∃ joined text, "findPeopleByNameOrMaidenName" = Finder.lead "People" ++ text ∧
      Grown (AbsentAfter (Finder.lead "People")) (candidates nestedBean []) joined text ∧
      (joined.map (·.spelling)).Nodup ∧ joined.length ≤ spellingCount nestedBean [] := by
  have counted : spellingCount nestedBean [] = 3 := by decide +kernel
  have enough : spellingCount nestedBean [] ≤ 100 := by
    rw [counted]
    decide
  have listed : "findPeopleByNameOrMaidenName" ∈ names nestedBean "People" 2 [] := by decide +kernel
  obtain ⟨_, saturated, derived, derivations⟩ := names_saturate nestedBean "People" []
  obtain ⟨joined, text, _, spelled, grown⟩ := (derived 2 _).mp listed
  exact ⟨counted, enough, saturated 100 enough, joined, text, spelled, grown, derivations joined text grown⟩

end QueryByName.Finder
