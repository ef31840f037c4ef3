import Mathlib.Data.List.Nodup
import QueryByName.Java.ClassBody

/-! # The fields that setters reach

A setter finds its field by a property or by its parameter, and the first of the fields of one name
is the one that is found.  Where names are told apart neither the order of the fields nor that of the
setters decides what is reached: `mem_settable_iff` speaks of both as sets.
-/

namespace QueryByName.Java

namespace ClassBody

variable {body : ClassBody}

theorem firstOfEachName_sublist (fields : List Field) : (firstOfEachName fields).Sublist fields := by
  induction fields with
  | nil => exact List.Sublist.refl _
  | cons field rest inductionHypothesis => exact (List.filter_sublist.trans inductionHypothesis).cons_cons field

theorem nodup_names_firstOfEachName (fields : List Field) : ((firstOfEachName fields).map (·.name)).Nodup := by
  induction fields with
  | nil => exact List.nodup_nil
  | cons field rest inductionHypothesis =>
    rw [firstOfEachName, List.map_cons, List.nodup_cons]
    refine ⟨?_, inductionHypothesis.sublist (List.filter_sublist.map _)⟩
    simp

theorem mem_of_mem_firstOfEachName {fields : List Field} {field : Field}
    (present : field ∈ firstOfEachName fields) : field ∈ fields :=
  (firstOfEachName_sublist fields).subset present

/-- A field that a setter sets has been looked up by some name. -/
theorem exists_field?_of_fieldSetBy? {setter : Method} {field : Field}
    (set : body.fieldSetBy? setter = some field) : ∃ name, body.field? name = some field := by
  rw [fieldSetBy?, Option.or_eq_some_iff] at set
  cases set with
  | inl byProperty =>
    obtain ⟨property, _, found⟩ := Option.bind_eq_some_iff.mp byProperty
    exact ⟨property, found⟩
  | inr byParameter =>
    obtain ⟨parameter, _, found⟩ := Option.bind_eq_some_iff.mp byParameter.2
    exact ⟨parameter.name, found⟩

theorem exists_field?_of_mem_settable {field : Field} (settable : field ∈ body.settable) :
    ∃ name, body.field? name = some field := by
  obtain ⟨_, _, set⟩ := List.mem_filterMap.mp (mem_of_mem_firstOfEachName settable)
  exact exists_field?_of_fieldSetBy? set

theorem mem_fields_of_field? {name : String} {field : Field} (found : body.field? name = some field) :
    field ∈ body.fields :=
  List.mem_of_find?_eq_some found

theorem mem_fields_of_fieldSetBy? {setter : Method} {field : Field}
    (set : body.fieldSetBy? setter = some field) : field ∈ body.fields := by
  obtain ⟨_, found⟩ := exists_field?_of_fieldSetBy? set
  exact mem_fields_of_field? found

theorem mem_fields_of_mem_settable {field : Field} (settable : field ∈ body.settable) :
    field ∈ body.fields := by
  obtain ⟨_, found⟩ := exists_field?_of_mem_settable settable
  exact mem_fields_of_field? found

/-! ## Fields with names of their own -/

theorem eq_of_name_eq (distinct : (body.fields.map (·.name)).Nodup) {field other : Field}
    (declared : field ∈ body.fields) (otherDeclared : other ∈ body.fields) (same : field.name = other.name) :
    field = other :=
  List.inj_on_of_nodup_map distinct declared otherDeclared same

theorem name_eq_of_field? {name : String} {field : Field} (found : body.field? name = some field) :
    field.name = name := by
  rw [field?] at found
  simpa using List.find?_some found

theorem field?_eq_some_iff (distinct : (body.fields.map (·.name)).Nodup) {name : String} {field : Field} :
    body.field? name = some field ↔ field ∈ body.fields ∧ field.name = name := by
  constructor
  · intro found
    exact ⟨List.mem_of_find?_eq_some found, name_eq_of_field? found⟩
  · rintro ⟨declared, rfl⟩
    have searched : (body.field? field.name).isSome :=
      List.find?_isSome.mpr ⟨field, declared, beq_iff_eq.mpr rfl⟩
    obtain ⟨found, lookup⟩ := Option.isSome_iff_exists.mp searched
    have foundDeclared : found ∈ body.fields := List.mem_of_find?_eq_some lookup
    rw [lookup, eq_of_name_eq distinct foundDeclared declared (name_eq_of_field? lookup)]

theorem mem_firstOfEachName_iff {fields : List Field}
    (told : ∀ field ∈ fields, ∀ other ∈ fields, field.name = other.name → field = other) {field : Field} :
    field ∈ firstOfEachName fields ↔ field ∈ fields := by
  refine ⟨mem_of_mem_firstOfEachName, fun present => ?_⟩
  induction fields with
  | nil => cases present
  | cons first rest inductionHypothesis =>
    obtain ⟨firstTold, _⟩ := List.forall_mem_cons.mp told
    rw [firstOfEachName, List.mem_cons, List.mem_filter]
    by_cases same : field.name = first.name
    · exact .inl (firstTold field present same.symm).symm
    · have later : field ∈ rest := (List.mem_cons.mp present).resolve_left fun here => same (congrArg Field.name here)
      refine .inr ⟨inductionHypothesis ?_ later, bne_iff_ne.mpr same⟩
      intro field inRest other otherInRest
      exact told field (List.mem_cons_of_mem _ inRest) other (List.mem_cons_of_mem _ otherInRest)

theorem firstOfEachName_of_distinct {fields : List Field} (distinct : (fields.map (·.name)).Nodup) :
    firstOfEachName fields = fields := by
  induction fields with
  | nil => rfl
  | cons first rest inductionHypothesis =>
    obtain ⟨fresh, restDistinct⟩ := List.nodup_cons.mp distinct
    rw [firstOfEachName, inductionHypothesis restDistinct, List.filter_eq_self.mpr]
    intro field present
    rw [bne_iff_ne]
    intro same
    exact fresh (List.mem_map.mpr ⟨field, present, same⟩)

/-- A field is settable exactly if some setter reaches it. -/
theorem mem_settable_iff (distinct : (body.fields.map (·.name)).Nodup) {field : Field} :
    field ∈ body.settable ↔ ∃ setter ∈ body.setters, body.fieldSetBy? setter = some field := by
  rw [settable, mem_firstOfEachName_iff, List.mem_filterMap]
  intro field present other otherPresent
  obtain ⟨_, _, set⟩ := List.mem_filterMap.mp present
  obtain ⟨_, _, otherSet⟩ := List.mem_filterMap.mp otherPresent
  exact eq_of_name_eq distinct (mem_fields_of_fieldSetBy? set) (mem_fields_of_fieldSetBy? otherSet)

end ClassBody

end QueryByName.Java
