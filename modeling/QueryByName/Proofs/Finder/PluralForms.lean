import Mathlib.Data.List.Infix
import QueryByName.Proofs.Finder.Growth

/-! # Plural forms

What the plural in a name decides besides its lead.  The guard against repeated fields looks at the
whole name so far, lead included, so a field may be kept off a text by the lead alone: with the
plural `PetTypes` no further field `type` is joined (`not_every_plural_alike`).

`tails_of_plurals` says that nothing else depends on the plural.  What stands after the lead is grown
under a guard against the fields joined so far and against the fields that the lead keeps off, and
where two plurals differ, one of their leads keeps a field off a text that both have built.
-/

namespace QueryByName.Finder

open QueryByName.Java (Field ClassBody)

/-- What stands after the lead in the names of a class. -/
def tails (body : ClassBody) (plural : String) (depth : Nat) (exclusions : List String) : List String :=
  (names body plural depth exclusions).map (withoutLead plural)

/-- Whether a field occurs in a name only because of the lead, inside it or across its end. -/
def KeptOff (lead text : String) (field : Field) : Prop :=
  Absent text field ∧ ¬ Absent (lead ++ text) field

variable {body : ClassBody} {plural other : String} {depth : Nat} {exclusions : List String} {text : String}

theorem absentAfter_iff {lead : String} {field : Field} :
    AbsentAfter lead text field ↔ Absent text field ∧ ¬ KeptOff lead text field := by
  constructor
  · intro absent
    exact ⟨Absent.of_append absent, fun keptOff => keptOff.2 absent⟩
  · intro guarded
    obtain ⟨absent, free⟩ := guarded
    exact Classical.byContradiction fun occurs => free ⟨absent, occurs⟩

theorem mem_tails_iff :
    text ∈ tails body plural depth exclusions ↔
      ∃ joined, joined.length ≤ depth ∧ Grown (AbsentAfter (lead plural)) (candidates body exclusions) joined text := by
  have dropped (rest : String) : withoutLead plural (lead plural ++ rest) = rest :=
    (isBody_iff.mp (.inl rfl)).symm
  rw [tails, List.mem_map]
  constructor
  · rintro ⟨name, listed, rfl⟩
    obtain ⟨joined, rest, bound, rfl, grown⟩ := mem_names_iff_grown.mp listed
    rw [dropped]
    exact ⟨joined, bound, grown⟩
  · rintro ⟨joined, bound, grown⟩
    exact ⟨lead plural ++ text, mem_names_iff_grown.mpr ⟨joined, text, bound, rfl, grown⟩, dropped text⟩

/-! ## Where two plurals part -/

theorem Grown.mono {admits further : String → Field → Prop} {fields joined : List Field}
    (wider : ∀ text, ∀ field ∈ fields, admits text field → further text field)
    (grown : Grown admits fields joined text) : Grown further fields joined text := by
  induction grown with
  | first candidate stubbed => exact .first candidate stubbed
  | join connective _ candidate admitted stubbed inductionHypothesis =>
    exact .join connective inductionHypothesis candidate (wider _ _ candidate admitted) stubbed

/-- A text that both plurals build, and a candidate that joins it under the one plural while the lead
of the other keeps it off. -/
structure PartsAt (body : ClassBody) (depth : Nat) (exclusions : List String) (plural other earlier : String)
    (field : Field) : Prop where
  built : earlier ∈ tails body plural depth exclusions
  builtOther : earlier ∈ tails body other depth exclusions
  candidate : field ∈ candidates body exclusions
  admitted : AbsentAfter (lead plural) earlier field
  keptOff : KeptOff (lead other) earlier field

/-- Whether a text joins a field where two plurals part. -/
def Parted (body : ClassBody) (depth : Nat) (exclusions : List String) (plural other text : String) : Prop :=
  ∃ earlier field, PartsAt body depth exclusions plural other earlier field ∧
    ∃ connective : Connective, (earlier ++ connective.val.spelling ++ field.spelling).toList <+: text.toList

theorem grown_or_parted {joined : List Field}
    (grown : Grown (AbsentAfter (lead plural)) (candidates body exclusions) joined text)
    (bound : joined.length ≤ depth) :
    Grown (AbsentAfter (lead other)) (candidates body exclusions) joined text ∨
      Parted body depth exclusions plural other text := by
  induction grown with
  | first candidate stubbed => exact .inl (.first candidate stubbed)
  | @join joined text stub field connective shorter candidate admitted stubbed inductionHypothesis =>
    have shorterBound : joined.length ≤ depth := by
      rw [List.length_append] at bound
      exact Nat.le_of_add_right_le bound
    cases inductionHypothesis shorterBound with
    | inl same =>
      by_cases keptOff : KeptOff (lead other) text field
      · -- here the plurals part for the first time
        refine .inr ⟨text, field, ?_, connective, ?_⟩
        · exact ⟨mem_tails_iff.mpr ⟨joined, shorterBound, shorter⟩, mem_tails_iff.mpr ⟨joined, shorterBound, same⟩,
            candidate, admitted, keptOff⟩
        · have begins := (List.prefix_append_right_inj (text ++ connective.val.spelling).toList).mpr
            (spelling_prefix_of_mem_stubs stubbed)
          rwa [← String.toList_append, ← String.toList_append] at begins
      · have admittedOther := absentAfter_iff.mpr ⟨(absentAfter_iff.mp admitted).1, keptOff⟩
        exact .inl (.join connective same candidate admittedOther stubbed)
    | inr parted =>
      obtain ⟨earlier, kept, partsAt, joining, begins⟩ := parted
      refine .inr ⟨earlier, kept, partsAt, joining, begins.trans ?_⟩
      rw [String.append_assoc, String.toList_append]
      exact List.prefix_append _ _

/-! ## Plurals that make no difference -/

/-- Whether two leads meet a spelling alike: it stands inside both or neither, and each proper
beginning of it ends both or neither. -/
structure MeetAlike (lead other spelling : String) : Prop where
  inside : spelling.toList <:+: lead.toList ↔ spelling.toList <:+: other.toList
  across : ∀ front ∈ spelling.toList.inits, front ≠ spelling.toList → (front <:+ lead.toList ↔ front <:+ other.toList)

instance (lead other spelling : String) : Decidable (MeetAlike lead other spelling) :=
  decidable_of_iff ((spelling.toList <:+: lead.toList ↔ spelling.toList <:+: other.toList) ∧
    ∀ front ∈ spelling.toList.inits, front ≠ spelling.toList → (front <:+ lead.toList ↔ front <:+ other.toList))
    ⟨fun both => ⟨both.1, both.2⟩, fun alike => ⟨alike.inside, alike.across⟩⟩

theorem MeetAlike.symm {lead other spelling : String} (alike : MeetAlike lead other spelling) :
    MeetAlike other lead spelling :=
  ⟨alike.inside.symm, fun front begins proper => (alike.across front begins proper).symm⟩

theorem MeetAlike.absentAfter {lead other : String} {field : Field} (alike : MeetAlike lead other field.spelling)
    (absent : AbsentAfter lead text field) : AbsentAfter other text field := by
  rw [AbsentAfter, Absent, String.toList_append, List.infix_append_iff_ne_nil] at absent ⊢
  rintro (inside | within | ⟨front, back, frontLetters, backLetters, split, ends, begins⟩)
  · exact absent (.inl (alike.inside.mpr inside))
  · exact absent (.inr (.inl within))
  · have beginning : front ∈ field.spelling.toList.inits := by
      rw [List.mem_inits, split]
      exact List.prefix_append _ _
    have proper : front ≠ field.spelling.toList := by
      intro whole
      rw [split, List.self_eq_append_right] at whole
      exact backLetters whole
    exact absent (.inr (.inr ⟨front, back, frontLetters, backLetters, split,
      (alike.across front beginning proper).mpr ends, begins⟩))

theorem mem_tails_of_alike (alike : ∀ field ∈ candidates body exclusions, MeetAlike (lead plural) (lead other) field.spelling)
    (listed : text ∈ tails body plural depth exclusions) : text ∈ tails body other depth exclusions := by
  obtain ⟨joined, bound, grown⟩ := mem_tails_iff.mp listed
  refine mem_tails_iff.mpr ⟨joined, bound, grown.mono ?_⟩
  exact fun _ field candidate absent => (alike field candidate).absentAfter absent

/-- What stands after the lead is grown under a guard that the plural enters through its lead only. -/
theorem tails_of_plurals (body : ClassBody) (depth : Nat) (exclusions : List String) :
    (∀ plural text, text ∈ tails body plural depth exclusions ↔ ∃ joined, joined.length ≤ depth ∧
      Grown (fun earlier field => Absent earlier field ∧ ¬ KeptOff (lead plural) earlier field)
        (candidates body exclusions) joined text) ∧
    (∀ plural other, ∀ text ∈ tails body plural depth exclusions,
      text ∈ tails body other depth exclusions ∨ Parted body depth exclusions plural other text) ∧
    (∀ plural other,
      (∀ field ∈ candidates body exclusions, MeetAlike (lead plural) (lead other) field.spelling) →
        ∀ text, text ∈ tails body plural depth exclusions ↔ text ∈ tails body other depth exclusions) := by
  refine ⟨fun plural text => ?_, fun plural other text listed => ?_, fun plural other alike text => ⟨?_, ?_⟩⟩
  · have guard : AbsentAfter (lead plural) =
        fun earlier field => Absent earlier field ∧ ¬ KeptOff (lead plural) earlier field := by
      funext earlier field
      exact propext absentAfter_iff
    rw [mem_tails_iff, guard]
  · obtain ⟨joined, bound, grown⟩ := mem_tails_iff.mp listed
    exact (grown_or_parted grown bound).imp_left fun same => mem_tails_iff.mpr ⟨joined, bound, same⟩
  · exact mem_tails_of_alike alike
  · exact mem_tails_of_alike fun field candidate => (alike field candidate).symm

/-- The plural `PetTypes` holds the spelling of a field. -/
def typedBean : ClassBody :=
  .bean (.named "com.example.PetType")
    [⟨"name", .named "com.example.Name", false, false, []⟩, ⟨"type", .named "com.example.Type", false, false, []⟩]

theorem nameAndType_built : "NameAndType" ∈ tails typedBean "Kinds" 2 [] := by
  decide +kernel

theorem nameAndType_not_built : "NameAndType" ∉ tails typedBean "PetTypes" 2 [] := by
  decide +kernel

theorem tails_of_plurals_typed :
    (∀ field ∈ candidates typedBean [], MeetAlike (lead "Kinds") (lead "Sorts") field.spelling) ∧
    (∀ text, text ∈ tails typedBean "Kinds" 2 [] ↔ text ∈ tails typedBean "Sorts" 2 []) ∧
    "NameAndType" ∈ tails typedBean "Kinds" 2 [] ∧ Parted typedBean 2 [] "Kinds" "PetTypes" "NameAndType" := by
  have alike : ∀ field ∈ candidates typedBean [], MeetAlike (lead "Kinds") (lead "Sorts") field.spelling := by
    decide +kernel
  obtain ⟨_, parts, same⟩ := tails_of_plurals typedBean 2 []
  have parted := (parts "Kinds" "PetTypes" "NameAndType" nameAndType_built).resolve_left nameAndType_not_built
  exact ⟨alike, same "Kinds" "Sorts" alike, nameAndType_built, parted⟩

/-- The plural of a class decides which further fields may be joined. -/
theorem not_every_plural_alike : ¬ ∀ (body : ClassBody) (depth : Nat) (exclusions : List String)
    (plural other text : String),
      text ∈ tails body plural depth exclusions ↔ text ∈ tails body other depth exclusions := by
  intro alike
  exact nameAndType_not_built ((alike typedBean 2 [] "Kinds" "PetTypes" "NameAndType").mp nameAndType_built)

end QueryByName.Finder
