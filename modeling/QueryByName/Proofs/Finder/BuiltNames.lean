import Mathlib.Data.List.Nodup
import QueryByName.Finder.Derivation
import QueryByName.Proofs.Finder.GreedyReading
import QueryByName.Proofs.Finder.Phrase

/-! # The names that are built

`Built` derives the names with a number of fields one field at a time.  The layers of the growth
hold exactly the derived names (`mem_names_iff`), so everything about a listed name is an induction
on its derivation.

A derived name is the lead followed by a phrase, and the phrase has only clauses that were on offer
(`Built.exists_phrase`).  The name does not say where its words end; the phrase does.
-/

namespace QueryByName.Finder

open QueryByName.Java (Field ClassBody)

/-! ## Derivations -/

/-- The names that combine `count` of the given fields. -/
inductive Built (lead : String) (fields : List Field) : Nat → String → Prop where
  | first {field : Field} {stub : String} (candidate : field ∈ fields) (stubbed : stub ∈ field.stubs) :
      Built lead fields 1 (lead ++ stub)
  | join {count : Nat} {name stub : String} {field : Field} (connective : Connective)
      (shorter : Built lead fields count name) (candidate : field ∈ fields)
      (fresh : ¬ field.spelling.toList <:+: name.toList) (stubbed : stub ∈ field.stubs) :
      Built lead fields (count + 1) (name ++ connective.val.spelling ++ stub)

variable {lead : String} {fields : List Field}

theorem not_built_zero {name : String} : ¬ Built lead fields 0 name := nofun

theorem mem_namesOf_iff {given : List String} {name : String} : name ∈ namesOf given ↔ name ∈ given :=
  Ordered.mem_ofList_iff

theorem mem_firstLayer_iff {name : String} : name ∈ firstLayer lead fields ↔ Built lead fields 1 name := by
  rw [firstLayer, mem_namesOf_iff, List.mem_flatMap]
  constructor
  · intro listed
    obtain ⟨field, candidate, present⟩ := listed
    obtain ⟨stub, stubbed, rfl⟩ := List.mem_map.mp present
    exact .first candidate stubbed
  · intro built
    cases built with
    | first candidate stubbed => exact ⟨_, candidate, List.mem_map_of_mem stubbed⟩
    | join _ shorter _ _ _ => exact absurd shorter not_built_zero

theorem mem_extensions_iff {name longer : String} :
    longer ∈ extensions fields name ↔ ∃ field ∈ fields, ¬ field.spelling.toList <:+: name.toList ∧
      ∃ connective : Connective, ∃ stub ∈ field.stubs, longer = name ++ connective.val.spelling ++ stub := by
  rw [extensions, List.mem_flatMap]
  refine exists_congr fun field => and_congr_right fun _ => ?_
  by_cases occurs : field.spelling.toList <:+: name.toList
  · simp [Text.contains_iff.mpr occurs, occurs]
  · rw [if_neg (mt Text.contains_iff.mp occurs)]
    constructor
    · intro present
      obtain ⟨keyword, joining, extended⟩ := List.mem_flatMap.mp present
      obtain ⟨stub, stubbed, rfl⟩ := List.mem_map.mp extended
      have connects : keyword.isConnective = true := by
        cases List.mem_cons.mp joining with
        | inl here =>
          subst here
          rfl
        | inr last =>
          rw [List.mem_singleton.mp last]
          rfl
      exact ⟨occurs, ⟨keyword, connects⟩, stub, stubbed, rfl⟩
    · intro joined
      obtain ⟨_, ⟨keyword, connects⟩, stub, stubbed, rfl⟩ := joined
      have joining : keyword ∈ [Keyword.and, Keyword.or] := by
        cases keyword <;> cases connects <;> simp
      exact List.mem_flatMap.mpr ⟨keyword, joining, List.mem_map_of_mem stubbed⟩

theorem Built.extend {count : Nat} {name longer : String} (shorter : Built lead fields count name)
    (extended : longer ∈ extensions fields name) : Built lead fields (count + 1) longer := by
  obtain ⟨field, candidate, fresh, connective, stub, stubbed, rfl⟩ := mem_extensions_iff.mp extended
  exact .join connective shorter candidate fresh stubbed

theorem mem_nextLayer_iff {count : Nat} {layer : List String}
    (holds : ∀ name, name ∈ layer ↔ Built lead fields (count + 1) name) (name : String) :
    name ∈ nextLayer fields layer ↔ Built lead fields (count + 2) name := by
  rw [nextLayer, mem_namesOf_iff, List.mem_flatMap]
  constructor
  · intro joined
    obtain ⟨shorter, present, extended⟩ := joined
    exact ((holds shorter).mp present).extend extended
  · intro built
    cases built with
    | join connective shorter candidate fresh stubbed =>
      refine ⟨_, (holds _).mpr shorter, mem_extensions_iff.mpr ?_⟩
      exact ⟨_, candidate, fresh, connective, _, stubbed, rfl⟩

theorem not_built_add {count : Nat} (none : ∀ name, ¬ Built lead fields (count + 1) name) (further : Nat)
    (name : String) : ¬ Built lead fields (count + further + 1) name := by
  -- a name with more fields contains one with fewer, whatever it joins to it
  induction further generalizing name with
  | zero => exact none name
  | succ further inductionHypothesis =>
    intro built
    have longer : Built lead fields (count + further + 2) name := built
    cases longer with
    | join _ shorter _ _ _ => exact inductionHypothesis _ shorter

theorem mem_layersFrom_iff (depth : Nat) {count : Nat} {layer : List String}
    (holds : ∀ name, name ∈ layer ↔ Built lead fields (count + 1) name) (name : String) :
    name ∈ layersFrom fields depth layer ↔ ∃ further < depth, Built lead fields (count + further + 1) name := by
  induction depth generalizing count layer with
  | zero => simp [layersFrom]
  | succ depth inductionHypothesis =>
    rw [layersFrom]
    -- the growth stops at an empty layer, and no later layer could have a name
    by_cases empty : layer = []
    · have none : ∀ name, ¬ Built lead fields (count + 1) name := by
        intro name built
        rw [← holds, empty] at built
        cases built
      simp [empty, not_built_add none]
    · have later := inductionHypothesis (mem_nextLayer_iff holds)
      rw [if_neg (by simpa using empty), List.mem_append, holds, later]
      constructor
      · rintro (now | ⟨further, bound, built⟩)
        · exact ⟨0, Nat.succ_pos depth, now⟩
        · rw [Nat.add_right_comm count 1 further] at built
          exact ⟨further + 1, Nat.succ_lt_succ bound, built⟩
      · intro derived
        obtain ⟨further, bound, built⟩ := derived
        cases further with
        | zero => exact .inl built
        | succ further =>
          refine .inr ⟨further, Nat.lt_of_succ_lt_succ bound, ?_⟩
          rw [Nat.add_right_comm count 1 further]
          exact built

/-- The names up to a depth are those derived with at most so many fields. -/
theorem mem_names_iff {body : ClassBody} {plural : String} {depth : Nat} {exclusions : List String}
    {name : String} :
    name ∈ names body plural depth exclusions ↔
      ∃ count ≤ depth, Built (Finder.lead plural) (candidates body exclusions) count name := by
  have firstLayerHolds (name : String) :
      name ∈ firstLayer (Finder.lead plural) (candidates body exclusions) ↔
        Built (Finder.lead plural) (candidates body exclusions) (0 + 1) name := mem_firstLayer_iff
  rw [names, mem_namesOf_iff, mem_layersFrom_iff depth firstLayerHolds]
  constructor
  · intro derived
    obtain ⟨further, bound, built⟩ := derived
    exact ⟨0 + further + 1, by omega, built⟩
  · intro derived
    obtain ⟨count, bound, built⟩ := derived
    cases count with
    | zero => exact absurd built not_built_zero
    | succ further =>
      refine ⟨further, by omega, ?_⟩
      rwa [Nat.zero_add]

/-! ## Derived names are phrases -/

/-- Whether a clause was on offer: its field may be built from, and its keyword suits the type. -/
structure Offered (body : ClassBody) (exclusions : List String) (clause : Clause) : Prop where
  settable : clause.field ∈ body.settable
  notExcluded : clause.field.name ∉ exclusions
  notMap : clause.field.type.isMap = false
  notTransient : clause.field.isTransient = false
  notIdentifier : clause.field.isIdentifier = false
  notVersion : clause.field.isVersion = false
  notCollection : clause.field.isCollection = false
  suited : ∀ keyword ∈ clause.keyword?, keyword ∈ Keyword.forType clause.field.type

theorem Offered.mentionable {body : ClassBody} {exclusions : List String} {clause : Clause}
    (offered : Offered body exclusions clause) : clause.field ∈ body.mentionable := by
  refine List.mem_filter.mpr ⟨offered.settable, ?_⟩
  rw [offered.notMap, Bool.not_false]

theorem isConnective_of_mem_forType {type : Java.TypeExpr} {keyword : Keyword}
    (suited : keyword ∈ Keyword.forType type) : keyword.isConnective = false := by
  have plain : ∀ offered ∈ [Keyword.forQuantities, Keyword.forTexts, Keyword.forBooleans, []],
      ∀ keyword ∈ offered, keyword.isConnective = false := by
    decide
  rw [Keyword.forType] at suited
  split at suited
  · exact plain _ (by simp) _ suited
  · split at suited
    · exact plain _ (by simp) _ suited
    · split at suited
      · exact plain _ (by simp) _ suited
      · cases suited

theorem isQuantity_of_between {type : Java.TypeExpr} (suited : Keyword.between ∈ Keyword.forType type) :
    type.isQuantity = true := by
  rw [Keyword.forType] at suited
  split at suited
  · assumption
  · split at suited
    · exact absurd suited (by decide)
    · split at suited
      · exact absurd suited (by decide)
      · cases suited

theorem exists_clause_of_stub {body : ClassBody} {exclusions : List String} {field : Field} {stub : String}
    (candidate : field ∈ candidates body exclusions) (stubbed : stub ∈ field.stubs) :
    ∃ clause : Clause, Offered body exclusions clause ∧ rowText clause.words = stub ∧ clause.field = field := by
  obtain ⟨settable, roles⟩ := List.mem_filter.mp candidate
  simp only [Field.isCandidate, Bool.and_eq_true, Bool.not_eq_true'] at roles
  obtain ⟨⟨⟨⟨⟨notExcluded, notMap⟩, notTransient⟩, notIdentifier⟩, notVersion⟩, notCollection⟩ := roles
  have absent : field.name ∉ exclusions := by simpa using notExcluded
  cases List.mem_append.mp stubbed with
  | inl withKeyword =>
    obtain ⟨keyword, suited, rfl⟩ := List.mem_map.mp withKeyword
    refine ⟨⟨field, some ⟨keyword, isConnective_of_mem_forType suited⟩⟩, ?_, ?_, rfl⟩
    · refine ⟨settable, absent, notMap, notTransient, notIdentifier, notVersion, notCollection, ?_⟩
      simpa [Clause.keyword?] using suited
    · simp [Clause.words, Clause.keyword?, Word.spelling]
  | inr alone =>
    rw [List.mem_singleton.mp alone]
    refine ⟨⟨field, none⟩, ?_, ?_, rfl⟩
    · refine ⟨settable, absent, notMap, notTransient, notIdentifier, notVersion, notCollection, ?_⟩
      simp [Clause.keyword?]
    · simp [Clause.words, Clause.keyword?, Word.spelling]

/-- The phrase that a name was spelled from: as many clauses as fields, all on offer, and no
connective left over. -/
structure SpelledFrom (body : ClassBody) (exclusions : List String) (lead name : String) (count : Nat)
    (phrase : Phrase) : Prop where
  name_eq : name = lead ++ rowText phrase.words
  complete : phrase.trailing = none
  count_eq : phrase.members.length = count
  offered : ∀ clause ∈ phrase.members, Offered body exclusions clause

theorem spelling_infix_rowText {words : List Word} {word : Word} (present : word ∈ words) :
    word.spelling.toList <:+: (rowText words).toList := by
  obtain ⟨before, after, rfl⟩ := List.append_of_mem present
  rw [rowText_append, rowText_cons, String.toList_append, String.toList_append]
  exact ⟨(rowText before).toList, (rowText after).toList, by rw [List.append_assoc]⟩

/-- A text that does not occur in a name differs from all that do. -/
theorem nodup_concat_of_not_infix {spellings : List String} {name spelling : String} (apart : spellings.Nodup)
    (occur : ∀ earlier ∈ spellings, earlier.toList <:+: name.toList)
    (fresh : ¬ spelling.toList <:+: name.toList) : (spellings ++ [spelling]).Nodup := by
  rw [← List.concat_eq_append]
  exact apart.concat fun present => fresh (occur spelling present)

/-- The guard against fields that occur already keeps the clauses of the phrase apart. -/
theorem Built.exists_fresh_phrase {body : ClassBody} {exclusions : List String} {count : Nat} {name : String}
    (built : Built lead (candidates body exclusions) count name) :
    ∃ phrase, SpelledFrom body exclusions lead name count phrase ∧
      (phrase.members.map (·.field.spelling)).Nodup := by
  induction built with
  | first candidate stubbed =>
    obtain ⟨clause, offered, spelled, _⟩ := exists_clause_of_stub candidate stubbed
    refine ⟨⟨clause, [], none⟩, ⟨?_, rfl, rfl, ?_⟩, List.pairwise_singleton _ _⟩
    · simp [Phrase.words, connectiveWords, spelled]
    · simpa [Phrase.members] using offered
  | @join _ name _ _ connective _ candidate fresh stubbed inductionHypothesis =>
    obtain ⟨phrase, ⟨name_eq, complete, count_eq, offered⟩, apart⟩ := inductionHypothesis
    obtain ⟨clause, clauseOffered, spelled, rfl⟩ := exists_clause_of_stub candidate stubbed
    refine ⟨phrase.join connective clause, ⟨?_, complete, ?_, ?_⟩, ?_⟩
    · simp [Phrase.words_join complete, name_eq, spelled, Word.spelling, String.append_assoc]
    · simp [Phrase.members_join, count_eq]
    · intro member present
      rw [Phrase.members_join] at present
      cases List.mem_append.mp present with
      | inl earlier => exact offered member earlier
      | inr last => rwa [List.mem_singleton.mp last]
    · rw [Phrase.members_join, List.map_append]
      refine nodup_concat_of_not_infix apart ?_ fresh
      -- every earlier clause puts the spelling of its field into the name
      intro earlier present
      obtain ⟨member, listed, rfl⟩ := List.mem_map.mp present
      have within := spelling_infix_rowText (Phrase.field_mem_of_mem_members listed)
      rw [name_eq, String.toList_append]
      exact within.trans (List.suffix_append _ _).isInfix

theorem Built.exists_phrase {body : ClassBody} {exclusions : List String} {count : Nat} {name : String}
    (built : Built lead (candidates body exclusions) count name) :
    ∃ phrase, SpelledFrom body exclusions lead name count phrase := by
  obtain ⟨phrase, spelled, _⟩ := built.exists_fresh_phrase
  exact ⟨phrase, spelled⟩

end QueryByName.Finder
