import QueryByName.Proofs.Java.SettableFields

/-! # The settable fields of a bean

The setter of a field is named after it, and the property is read off that name again.  Reading it back
need not give the name of the field: `URL` becomes the property `uRL`.  A setter therefore reaches
the field called like its property if there is one, and the field it was made for only otherwise
(`fieldSetBy?_setterOf`).

`settable_bean_eq_filter_iff` says when that makes no difference, and `name_ne_empty_of_mem_settable_bean`
that a field without a name is never reached, whatever fields are declared.
-/

namespace QueryByName.Java

open QueryByName.Unicode (isUppercase)

/-- Names of fields that are told apart, also when the property of a setter is looked up: none is the
property that the setter made from another one sets. -/
structure OwnProperties (names : List String) : Prop where
  distinct : names.Nodup
  apart : ∀ name ∈ names, ∀ other ∈ names, other ≠ name →
    other ≠ Text.uncapitalized (Text.capitalized name)

theorem OwnProperties.sublist {names fewer : List String} (own : OwnProperties names)
    (sublist : fewer.Sublist names) : OwnProperties fewer where
  distinct := own.distinct.sublist sublist
  apart := fun name present other otherPresent =>
    own.apart name (sublist.subset present) other (sublist.subset otherPresent)

/-! ## Setters made from names -/

/-- The property that the setter made for a field of the given name sets. -/
def propertyOf (name : String) : String :=
  Text.uncapitalized (Text.capitalized name)

/-- Whether a method made as a setter for the name counts as one. -/
def beginsSetterName (name : String) : Bool :=
  (Text.capitalized name).toList.head?.any isUppercase

/-- Whether a field of a bean has a setter that counts as one. -/
def Field.hasSetter (field : Field) : Bool :=
  beginsSetterName field.name && !field.isStatic

theorem propertySetBy?_setterOf (field : Field) :
    propertySetBy? (Method.setterOf field).name =
      if beginsSetterName field.name then some (propertyOf field.name) else none := by
  have split : Text.afterLead? "set" (Method.setterOf field).name = some (Text.capitalized field.name) :=
    Text.afterLead?_eq_some_iff.mpr rfl
  rw [propertySetBy?, split]
  rfl

theorem isSetter_setterOf (field : Field) : (Method.setterOf field).isSetter = beginsSetterName field.name := by
  rw [Method.isSetter, propertySetBy?_setterOf]
  cases beginsSetterName field.name <;> rfl

theorem Field.begins_of_hasSetter {field : Field} (counts : field.hasSetter = true) :
    beginsSetterName field.name = true :=
  (Bool.and_eq_true_iff.mp counts).1

theorem name_ne_empty_of_beginsSetterName {name : String} (begins : beginsSetterName name = true) : name ≠ "" := by
  rintro rfl
  revert begins
  decide

theorem propertyOf_ne_empty {name : String} (named : name ≠ "") : propertyOf name ≠ "" := by
  simpa [propertyOf, Text.uncapitalized_eq_empty_iff, Text.capitalized_eq_empty_iff] using named

namespace ClassBody

/-! ## What the setters of a bean reach -/

variable {owner : TypeExpr} {fields : List Field}

theorem setters_bean (owner : TypeExpr) (fields : List Field) :
    (bean owner fields).setters = (fields.filter Field.hasSetter).map Method.setterOf := by
  rw [setters, bean, List.filter_map, List.filter_filter]
  simp only [Function.comp_def, isSetter_setterOf]
  rfl

theorem settable_bean_eq (owner : TypeExpr) (fields : List Field) :
    (bean owner fields).settable = firstOfEachName ((fields.filter Field.hasSetter).filterMap fun field =>
      (bean owner fields).fieldSetBy? (Method.setterOf field)) := by
  rw [settable, setters_bean, List.filterMap_map]
  rfl

theorem fieldSetBy?_setterOf {field : Field} (begins : beginsSetterName field.name = true) :
    (bean owner fields).fieldSetBy? (Method.setterOf field) =
      ((bean owner fields).field? (propertyOf field.name)).or ((bean owner fields).field? field.name) := by
  rw [fieldSetBy?, propertySetBy?_setterOf, if_pos begins]
  rfl

theorem exists_declared_of_mem_settable_bean {field : Field} (settable : field ∈ (bean owner fields).settable) :
    ∃ declared ∈ fields.filter Field.hasSetter, field.name = propertyOf declared.name ∨ field.name = declared.name := by
  rw [settable_bean_eq] at settable
  obtain ⟨declared, kept, set⟩ := List.mem_filterMap.mp (mem_of_mem_firstOfEachName settable)
  have counts : declared.hasSetter = true := (List.mem_filter.mp kept).2
  rw [fieldSetBy?_setterOf (Field.begins_of_hasSetter counts), Option.or_eq_some_iff] at set
  refine ⟨declared, kept, ?_⟩
  cases set with
  | inl byProperty => exact .inl (name_eq_of_field? byProperty)
  | inr byParameter => exact .inr (name_eq_of_field? byParameter.2)

theorem name_ne_empty_of_mem_settable_bean {field : Field} (settable : field ∈ (bean owner fields).settable) :
    field.name ≠ "" := by
  obtain ⟨declared, kept, called⟩ := exists_declared_of_mem_settable_bean settable
  have counts : declared.hasSetter = true := (List.mem_filter.mp kept).2
  have named := name_ne_empty_of_beginsSetterName (Field.begins_of_hasSetter counts)
  cases called with
  | inl property =>
    rw [property]
    exact propertyOf_ne_empty named
  | inr parameter =>
    rw [parameter]
    exact named

/-! ## When every setter reaches its own field -/

theorem filterMap_eq_self_iff {α : Type} {reach : α → Option α} {items : List α} :
    items.filterMap reach = items ↔ ∀ item ∈ items, reach item = some item := by
  induction items with
  | nil => simp
  | cons item rest inductionHypothesis =>
    rw [List.forall_mem_cons]
    cases reached : reach item with
    | none =>
      -- a list from which an item is left out is too short
      have shorter := List.length_filterMap_le reach rest
      simp only [List.filterMap_cons, reached]
      constructor
      · intro same
        have longer := congrArg List.length same
        simp only [List.length_cons] at longer
        omega
      · rintro ⟨found, _⟩
        cases found
    | some found => simp [reached, inductionHypothesis]

/-- A setter reaches the field it was made for unless its property is the name of another field. -/
theorem fieldSetBy?_setterOf_eq_some_iff (distinct : (fields.map (·.name)).Nodup) {field : Field}
    (declared : field ∈ fields) (begins : beginsSetterName field.name = true) :
    (bean owner fields).fieldSetBy? (Method.setterOf field) = some field ↔
      ∀ other ∈ fields, other.name = propertyOf field.name → other = field := by
  have byParameter : (bean owner fields).field? field.name = some field :=
    (field?_eq_some_iff distinct).mpr ⟨declared, rfl⟩
  rw [fieldSetBy?_setterOf begins, byParameter]
  constructor
  · intro reached other otherDeclared called
    have byProperty : (bean owner fields).field? (propertyOf field.name) = some other :=
      (field?_eq_some_iff distinct).mpr ⟨otherDeclared, called⟩
    rw [byProperty, Option.some_or] at reached
    exact Option.some.inj reached
  · intro alone
    cases byProperty : (bean owner fields).field? (propertyOf field.name) with
    | none => rfl
    | some found =>
      obtain ⟨foundDeclared, called⟩ := (field?_eq_some_iff distinct).mp byProperty
      rw [Option.some_or, alone found foundDeclared called]

/-- What is reached from fields with distinct names, the first of each name, is these fields only if every
field reaches itself: as soon as one is left out, the list is too short. -/
theorem firstOfEachName_filterMap_eq_self_iff {items : List Field} (distinct : (items.map (·.name)).Nodup)
    {reach : Field → Option Field} :
    firstOfEachName (items.filterMap reach) = items ↔ ∀ item ∈ items, reach item = some item := by
  rw [← filterMap_eq_self_iff]
  constructor
  · intro same
    have sublist := firstOfEachName_sublist (items.filterMap reach)
    rw [same] at sublist
    exact (sublist.eq_of_length_le (List.length_filterMap_le _ _)).symm
  · intro same
    rw [same]
    exact firstOfEachName_of_distinct distinct

/-- The settable fields of a bean with distinct names are those with a setter exactly if no property of a
setter is the name of another field. -/
theorem settable_bean_eq_filter_iff (owner : TypeExpr) (distinct : (fields.map (·.name)).Nodup) :
    (bean owner fields).settable = fields.filter Field.hasSetter ↔
      ∀ field ∈ fields, field.hasSetter = true →
        ∀ other ∈ fields, other.name = propertyOf field.name → other = field := by
  have distinctKept : ((fields.filter Field.hasSetter).map (·.name)).Nodup :=
    distinct.sublist (List.filter_sublist.map _)
  rw [settable_bean_eq, firstOfEachName_filterMap_eq_self_iff distinctKept]
  simp only [List.mem_filter, and_imp]
  refine forall₃_congr fun field declared counts => ?_
  exact fieldSetBy?_setterOf_eq_some_iff distinct declared (Field.begins_of_hasSetter counts)

/-- The settable fields of a bean are its fields that are not static and give a setter its name. -/
theorem settable_bean (own : OwnProperties (fields.map (·.name))) :
    (bean owner fields).settable = fields.filter fun field => beginsSetterName field.name && !field.isStatic := by
  refine (settable_bean_eq_filter_iff owner own.distinct).mpr fun field declared _ other otherDeclared called => ?_
  have same : other.name = field.name := by
    by_contra different
    exact own.apart _ (List.mem_map_of_mem declared) _ (List.mem_map_of_mem otherDeclared) different called
  exact List.inj_on_of_nodup_map own.distinct otherDeclared declared same

/-- The fields of a bean with names of their own, also after reading back the name of a setter, are
settable in the order of their declaration if they are not static and raising the first letter gives an
uppercase one.  If only the names are told apart, this holds as long as no setter reaches another field. -/
theorem settable_bean_of_distinct (owner : TypeExpr) (distinct : (fields.map (·.name)).Nodup) :
    ((∀ field ∈ fields, ∀ other ∈ fields, other.name ≠ field.name → other.name ≠ propertyOf field.name) →
      (bean owner fields).settable = fields.filter Field.hasSetter) ∧
    ((bean owner fields).settable.map (·.name)).Nodup ∧
    ((bean owner fields).settable = fields.filter Field.hasSetter ↔
      ∀ field ∈ fields, field.hasSetter = true →
        ∀ other ∈ fields, other.name = propertyOf field.name → other = field) := by
  refine ⟨fun apart => ?_, nodup_names_firstOfEachName _, settable_bean_eq_filter_iff owner distinct⟩
  have own : OwnProperties (fields.map (·.name)) := by
    refine ⟨distinct, ?_⟩
    rw [List.forall_mem_map]
    intro field declared
    rw [List.forall_mem_map]
    exact apart field declared
  exact settable_bean own

end ClassBody

/-- Fields whose names change when a setter is named after them and read back, one that gives a setter no
name, and a static one. -/
def unusualFields : List Field :=
  [⟨"URL", .named "java.lang.String", false, false, []⟩, ⟨"ßize", .named "int", false, false, []⟩,
    ⟨"_id", .named "long", false, false, []⟩, ⟨"LOG", .named "com.example.Log", true, false, []⟩,
    ⟨"name", .named "java.lang.String", false, false, []⟩]

theorem settable_bean_of_distinct_unusual :
    (unusualFields.map (·.name)).Nodup ∧
    (unusualFields.map fun field => propertyOf field.name) = ["uRL", "sSize", "_id", "lOG", "name"] ∧
    ((ClassBody.bean (.named "com.example.Page") unusualFields).settable.map (·.name)) = ["URL", "ßize", "name"] := by
  have distinct : (unusualFields.map (·.name)).Nodup := by decide
  have apart : ∀ field ∈ unusualFields, ∀ other ∈ unusualFields, other.name ≠ field.name →
      other.name ≠ propertyOf field.name := by
    decide +kernel
  obtain ⟨exactly, _, _⟩ := ClassBody.settable_bean_of_distinct (.named "com.example.Page") distinct
  refine ⟨distinct, by decide +kernel, ?_⟩
  rw [exactly apart]
  decide +kernel

/-- Next to a field called like its property, a field is not reached by its own setter. -/
example : ((ClassBody.bean (.named "com.example.Page")
    [⟨"URL", .named "java.lang.String", false, false, []⟩, ⟨"uRL", .named "int", true, false, []⟩]).settable.map
      (·.name)) = ["uRL"] := by
  decide +kernel

end QueryByName.Java
