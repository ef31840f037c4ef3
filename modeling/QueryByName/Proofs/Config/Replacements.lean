import Mathlib.Data.List.DropRight
import Mathlib.Data.List.Range
import QueryByName.Config.Check
import QueryByName.Proofs.Ordered

/-! # Warnings and replacements

Warnings and preferences are computed apart from the same settings.  `warnings_tell_replacements` says
that they agree: a warning stands at a place exactly if the preferences differ from what is written
there, and settings written from preferences bring no warning and the same preferences back.

The settings that replacing leaves alone are a fixed point, so the second part needs nothing about
warnings: `preferences_eq_of_writtenFrom` uses only that preferences are usable.
-/

namespace QueryByName.Text

open QueryByName.Unicode (isWhiteSpace)

/-! ## What trimming leaves -/

/-- Whether white space stands at neither end of a text. -/
def Bare (letters : List Char) : Prop :=
  (∀ letter ∈ letters.head?, isWhiteSpace letter = false) ∧ ∀ letter ∈ letters.getLast?, isWhiteSpace letter = false

/-- The part of a text that has only white space around it and none at its ends. -/
structure CoreOf (core text : String) : Prop where
  bare : Bare core.toList
  around : ∃ before after, text.toList = before ++ core.toList ++ after ∧
    (∀ letter ∈ before, isWhiteSpace letter = true) ∧ ∀ letter ∈ after, isWhiteSpace letter = true

theorem dropWhile_of_head? {letters : List Char} (bare : ∀ letter ∈ letters.head?, isWhiteSpace letter = false) :
    letters.dropWhile isWhiteSpace = letters := by
  cases letters with
  | nil => rfl
  | cons letter rest => rw [List.dropWhile_cons_of_neg (by simp [bare letter rfl])]

theorem head?_dropWhile (letters : List Char) :
    ∀ letter ∈ (letters.dropWhile isWhiteSpace).head?, isWhiteSpace letter = false := by
  intro letter first
  have stopped := List.head?_dropWhile_not isWhiteSpace letters
  rw [first] at stopped
  exact stopped

theorem head?_trimLetters (letters : List Char) :
    ∀ letter ∈ (trimLetters letters).head?, isWhiteSpace letter = false := by
  intro letter first
  have begins : trimLetters letters <+: letters.dropWhile isWhiteSpace := List.rdropWhile_prefix isWhiteSpace _
  obtain ⟨rest, split⟩ := begins
  refine head?_dropWhile letters letter ?_
  rw [← split, List.head?_append, first]
  rfl

theorem bare_trimLetters (letters : List Char) : Bare (trimLetters letters) := by
  refine ⟨head?_trimLetters letters, fun letter last => ?_⟩
  rw [trimLetters, List.getLast?_reverse] at last
  exact head?_dropWhile _ letter last

theorem coreOf_trimmed (text : String) : CoreOf (trimmed text) text where
  bare := by
    rw [trimmed, String.toList_ofList]
    exact bare_trimLetters text.toList
  around := by
    refine ⟨text.toList.takeWhile isWhiteSpace,
      ((text.toList.dropWhile isWhiteSpace).reverse.takeWhile isWhiteSpace).reverse, ?_, ?_, ?_⟩
    · rw [trimmed, String.toList_ofList, trimLetters, List.append_assoc, ← List.reverse_append,
        List.takeWhile_append_dropWhile, List.reverse_reverse, List.takeWhile_append_dropWhile]
    · exact fun letter present => List.mem_takeWhile_imp present
    · exact fun letter present => List.mem_takeWhile_imp (List.mem_reverse.mp present)

theorem dropWhile_blank_append {before rest : List Char} (blank : ∀ letter ∈ before, isWhiteSpace letter = true)
    (begins : ∀ letter ∈ rest.head?, isWhiteSpace letter = false) :
    (before ++ rest).dropWhile isWhiteSpace = rest := by
  rw [List.dropWhile_append_of_pos blank, dropWhile_of_head? begins]

theorem CoreOf.eq_trimmed {core text : String} (coreOf : CoreOf core text) : core = trimmed text := by
  obtain ⟨⟨begins, ends⟩, before, after, split, blankBefore, blankAfter⟩ := coreOf
  rw [← String.toList_inj, trimmed, String.toList_ofList, trimLetters, split]
  by_cases filled : core.toList = []
  · have blank : ∀ letter ∈ before ++ core.toList ++ after, isWhiteSpace letter = true := by
      rw [filled, List.append_nil]
      exact List.forall_mem_append.mpr ⟨blankBefore, blankAfter⟩
    rw [List.dropWhile_eq_nil_iff.mpr blank, filled]
    rfl
  · have front : (before ++ (core.toList ++ after)).dropWhile isWhiteSpace = core.toList ++ after := by
      refine dropWhile_blank_append blankBefore ?_
      rwa [List.head?_append_of_ne_nil _ filled]
    have back : (after.reverse ++ core.toList.reverse).dropWhile isWhiteSpace = core.toList.reverse := by
      refine dropWhile_blank_append (fun letter present => blankAfter letter (List.mem_reverse.mp present)) ?_
      rwa [List.head?_reverse]
    rw [List.append_assoc, front, List.reverse_append, back, List.reverse_reverse]

theorem coreOf_iff {core text : String} : CoreOf core text ↔ core = trimmed text :=
  ⟨CoreOf.eq_trimmed, fun same => same ▸ coreOf_trimmed text⟩

theorem trimmed_of_bare {text : String} (bare : Bare text.toList) : trimmed text = text :=
  (CoreOf.eq_trimmed ⟨bare, [], [], by simp⟩).symm

end QueryByName.Text

namespace QueryByName.Config

open QueryByName.Finder (Preferences standardAlias)
open QueryByName.Ordered (Increasing)
open QueryByName.Text (Bare CoreOf)

/-! ## Usable preferences -/

structure Usable (preferences : Preferences) : Prop where
  depth : 1 ≤ preferences.depth
  entityAlias : isIdentifier preferences.entityAlias = true
  exclusions : ∀ name ∈ preferences.exclusions, name ≠ "" ∧ Bare name.toList

/-- Whether a name that is to be excluded leads to an exclusion. -/
def Contributes (written : String) (preferences : Preferences) : Prop :=
  ∃ name ∈ preferences.exclusions, CoreOf name written

theorem isIdentifier_standardAlias : isIdentifier standardAlias = true := by decide +kernel

theorem isIdentifier_preferences (settings : FinderSettings) :
    isIdentifier settings.preferences.entityAlias = true := by
  rw [FinderSettings.preferences]
  split
  · assumption
  · exact isIdentifier_standardAlias

theorem mem_exclusions_iff {settings : FinderSettings} {name : String} :
    name ∈ settings.preferences.exclusions ↔ name ≠ "" ∧ ∃ written ∈ settings.exclude, CoreOf name written := by
  rw [FinderSettings.preferences, FinderSettings.exclusions, Ordered.mem_ofList_iff, List.mem_filter, bne_iff_ne,
    and_comm, List.mem_map]
  simp only [Text.coreOf_iff, eq_comm]

theorem usable_preferences (settings : FinderSettings) : Usable settings.preferences where
  depth := Nat.le_max_right settings.depth 1
  entityAlias := isIdentifier_preferences settings
  exclusions name present := by
    obtain ⟨filled, written, _, core⟩ := mem_exclusions_iff.mp present
    exact ⟨filled, core.bare⟩

/-! ## Where there is a warning -/

/-- The place of a name in the list of names to exclude. -/
def excludePlace (index : Nat) : String :=
  "finder.exclude[" ++ toString index ++ "]"

/-- The places that there can be a warning about, from first to last. -/
def places (settings : Settings) : List String :=
  "finder.depth" :: "finder.alias" :: (List.range settings.finder.exclude.length).map excludePlace

def warnedPlaces (settings : Settings) : List String :=
  settings.warnings.map (·.path)

theorem toList_excludePlace (index : Nat) :
    (excludePlace index).toList = "finder.exclude[".toList ++ Nat.toDigits 10 index ++ "]".toList := by
  have digits : (toString index).toList = Nat.toDigits 10 index := by
    rw [Nat.toString_eq_ofList_toDigits, String.toList_ofList]
  show ("finder.exclude[" ++ toString index ++ "]").toList = _
  rw [String.toList_append, String.toList_append, digits]

theorem excludePlace_injective : Function.Injective excludePlace := by
  intro index other same
  have letters := congrArg String.toList same
  rw [toList_excludePlace, toList_excludePlace, List.append_left_inj, List.append_right_inj] at letters
  calc index = Nat.ofDigitChars 10 (Nat.toDigits 10 index) 0 := Nat.ofDigitChars_ten_toDigits.symm
    _ = Nat.ofDigitChars 10 (Nat.toDigits 10 other) 0 := by rw [letters]
    _ = other := Nat.ofDigitChars_ten_toDigits

theorem ne_excludePlace {place : String} (fixed : place ∈ ["finder.depth", "finder.alias"]) (index : Nat) :
    place ≠ excludePlace index := by
  have otherwise : ∀ place ∈ ["finder.depth", "finder.alias"], place.toList.getLast? ≠ some ']' := by decide
  rintro rfl
  refine otherwise _ fixed ?_
  rw [toList_excludePlace]
  exact List.getLast?_concat

theorem nodup_places (settings : Settings) : (places settings).Nodup := by
  have indices : ((List.range settings.finder.exclude.length).map excludePlace).Nodup :=
    List.nodup_range.map excludePlace_injective
  simp [places, indices, (ne_excludePlace _ _).symm]

theorem sublist_blankWarnings (start : Nat) (names : List String) :
    ((FinderSettings.blankWarnings start names).map (·.path)).Sublist
      ((List.range' start names.length).map excludePlace) := by
  induction names generalizing start with
  | nil => exact List.Sublist.slnil
  | cons name rest inductionHypothesis =>
    rw [FinderSettings.blankWarnings, List.length_cons, List.range'_succ, List.map_cons]
    split
    · exact (inductionHypothesis (start + 1)).cons_cons _
    · exact (inductionHypothesis (start + 1)).cons _

theorem mem_blankWarnings_cons {start index : Nat} {name : String} {rest : List String} :
    excludePlace index ∈ (FinderSettings.blankWarnings start (name :: rest)).map (·.path) ↔
      (Text.isBlank name = true ∧ index = start) ∨
        excludePlace index ∈ (FinderSettings.blankWarnings (start + 1) rest).map (·.path) := by
  have here : excludePlace index = "finder.exclude[" ++ toString start ++ "]" ↔ index = start :=
    excludePlace_injective.eq_iff
  rw [FinderSettings.blankWarnings]
  split
  next blank => rw [List.map_cons, List.mem_cons, here, blank, eq_self, true_and]
  next filled => simp [filled]

/-- Warnings about names to exclude are counted on from the number that is given. -/
theorem mem_blankWarnings_iff {start index : Nat} {names : List String} :
    excludePlace index ∈ (FinderSettings.blankWarnings start names).map (·.path) ↔
      ∃ offset name, names[offset]? = some name ∧ Text.isBlank name = true ∧ index = start + offset := by
  induction names generalizing start with
  | nil => simp [FinderSettings.blankWarnings]
  | cons name rest inductionHypothesis =>
    rw [mem_blankWarnings_cons, inductionHypothesis]
    constructor
    · rintro (⟨blank, rfl⟩ | ⟨offset, found, listed, blank, rfl⟩)
      · exact ⟨0, name, rfl, blank, rfl⟩
      · exact ⟨offset + 1, found, listed, blank, by omega⟩
    · rintro ⟨offset, found, listed, blank, rfl⟩
      cases offset with
      | zero =>
        obtain rfl := Option.some.inj listed
        exact .inl ⟨blank, rfl⟩
      | succ offset => exact .inr ⟨offset, found, listed, blank, by omega⟩

theorem warnedPlaces_eq (settings : Settings) : warnedPlaces settings =
    (if settings.finder.depth = 0 then ["finder.depth"] else []) ++
      ((if isIdentifier settings.finder.entityAlias then [] else ["finder.alias"]) ++
        (FinderSettings.blankWarnings 0 settings.finder.exclude).map (·.path)) := by
  rw [warnedPlaces, Settings.warnings, List.map_append, List.map_append, List.append_assoc,
    FinderSettings.depthWarnings, FinderSettings.aliasWarnings, apply_ite (List.map _), apply_ite (List.map _)]
  rfl

theorem sublist_warnedPlaces (settings : Settings) : (warnedPlaces settings).Sublist (places settings) := by
  have depth : (if settings.finder.depth = 0 then ["finder.depth"] else []).Sublist ["finder.depth"] := by
    split <;> simp
  have entityAlias : (if isIdentifier settings.finder.entityAlias then [] else ["finder.alias"]).Sublist
      ["finder.alias"] := by
    split <;> simp
  have blank := sublist_blankWarnings 0 settings.finder.exclude
  rw [← List.range_eq_range'] at blank
  rw [warnedPlaces_eq]
  exact depth.append (entityAlias.append blank)

theorem not_mem_blankWarnings {place : String} (fixed : place ∈ ["finder.depth", "finder.alias"])
    (names : List String) : place ∉ (FinderSettings.blankWarnings 0 names).map (·.path) := by
  intro warned
  obtain ⟨index, _, same⟩ := List.mem_map.mp ((sublist_blankWarnings 0 names).subset warned)
  exact ne_excludePlace fixed index same.symm

theorem depth_mem_warnedPlaces_iff (settings : Settings) :
    "finder.depth" ∈ warnedPlaces settings ↔ settings.finder.depth = 0 := by
  have elsewhere : "finder.depth" ∉ (FinderSettings.blankWarnings 0 settings.finder.exclude).map (·.path) :=
    not_mem_blankWarnings (by decide) _
  rw [warnedPlaces_eq, List.mem_append, List.mem_append, or_iff_left elsewhere]
  split <;> split <;> simp_all

theorem alias_mem_warnedPlaces_iff (settings : Settings) :
    "finder.alias" ∈ warnedPlaces settings ↔ isIdentifier settings.finder.entityAlias = false := by
  have elsewhere : "finder.alias" ∉ (FinderSettings.blankWarnings 0 settings.finder.exclude).map (·.path) :=
    not_mem_blankWarnings (by decide) _
  rw [warnedPlaces_eq, List.mem_append, List.mem_append, or_iff_left elsewhere]
  split <;> split <;> simp_all

theorem excludePlace_mem_warnedPlaces_iff {settings : Settings} {index : Nat} :
    excludePlace index ∈ warnedPlaces settings ↔
      ∃ written, settings.finder.exclude[index]? = some written ∧ Text.isBlank written = true := by
  have notDepth : excludePlace index ∉ if settings.finder.depth = 0 then ["finder.depth"] else [] := by
    split <;> simp [(ne_excludePlace _ index).symm]
  have notAlias : excludePlace index ∉
      if isIdentifier settings.finder.entityAlias then [] else ["finder.alias"] := by
    split <;> simp [(ne_excludePlace _ index).symm]
  rw [warnedPlaces_eq, List.mem_append, List.mem_append, or_iff_right notDepth, or_iff_right notAlias,
    mem_blankWarnings_iff]
  simp

/-! ## Warnings against replacements -/

/-- Whether warnings stand exactly where preferences differ from the settings that they come from, each
once and in the order of the places. -/
structure TellsReplacements (settings : Settings) (preferences : Preferences) (warned : List String) : Prop where
  ordered : warned.Sublist (places settings)
  once : warned.Nodup
  depth : "finder.depth" ∈ warned ↔ preferences.depth ≠ settings.finder.depth
  entityAlias : "finder.alias" ∈ warned ↔ preferences.entityAlias ≠ settings.finder.entityAlias
  exclude : ∀ index, excludePlace index ∈ warned ↔
    ∃ written, settings.finder.exclude[index]? = some written ∧ ¬ Contributes written preferences

theorem depth_replaced_iff (settings : FinderSettings) :
    settings.preferences.depth ≠ settings.depth ↔ settings.depth = 0 := by
  have raised : settings.preferences.depth = max settings.depth 1 := rfl
  omega

theorem alias_replaced_iff (settings : FinderSettings) :
    settings.preferences.entityAlias ≠ settings.entityAlias ↔ isIdentifier settings.entityAlias = false := by
  constructor
  · intro replaced
    refine eq_false_of_ne_true fun accepted => replaced ?_
    simp [FinderSettings.preferences, accepted]
  · -- the alias that takes its place is an identifier
    intro refused same
    rw [← same, isIdentifier_preferences] at refused
    cases refused

theorem not_contributes_iff {settings : FinderSettings} {written : String} (given : written ∈ settings.exclude) :
    ¬ Contributes written settings.preferences ↔ Text.isBlank written = true := by
  rw [Text.isBlank, beq_iff_eq]
  constructor
  · intro nothing
    refine Decidable.byContradiction fun filled => nothing ?_
    exact ⟨_, mem_exclusions_iff.mpr ⟨filled, written, given, Text.coreOf_trimmed written⟩, Text.coreOf_trimmed written⟩
  · rintro blank ⟨name, present, core⟩
    obtain ⟨filled, _⟩ := mem_exclusions_iff.mp present
    exact filled (core.eq_trimmed.trans blank)

theorem tellsReplacements_warnedPlaces (settings : Settings) :
    TellsReplacements settings settings.finder.preferences (warnedPlaces settings) where
  ordered := sublist_warnedPlaces settings
  once := (nodup_places settings).sublist (sublist_warnedPlaces settings)
  depth := by rw [depth_mem_warnedPlaces_iff, depth_replaced_iff]
  entityAlias := by rw [alias_mem_warnedPlaces_iff, alias_replaced_iff]
  exclude index := by
    rw [excludePlace_mem_warnedPlaces_iff]
    refine exists_congr fun written => and_congr_right fun listed => ?_
    exact (not_contributes_iff (List.mem_of_getElem? listed)).symm

/-! ## Settings written from preferences -/

/-- Whether settings are written from preferences; the exclusions may come in any order. -/
structure WrittenFrom (preferences : Preferences) (settings : FinderSettings) : Prop where
  depth : settings.depth = preferences.depth
  entityAlias : settings.entityAlias = preferences.entityAlias
  countQueries : settings.countQueries = preferences.countQueries
  exclude : ∀ name, name ∈ settings.exclude ↔ name ∈ preferences.exclusions

theorem exclusions_of_writtenFrom {preferences : Preferences} (usable : Usable preferences)
    (increasing : Increasing compare preferences.exclusions) {settings : FinderSettings}
    (written : WrittenFrom preferences settings) : settings.preferences.exclusions = preferences.exclusions := by
  refine (Ordered.increasing_ofList _).eq_of_mem_iff increasing fun name => ?_
  constructor
  · intro present
    obtain ⟨_, entry, given, core⟩ := mem_exclusions_iff.mp present
    have listed := (written.exclude entry).mp given
    rwa [core.eq_trimmed, Text.trimmed_of_bare (usable.exclusions entry listed).2]
  · intro listed
    obtain ⟨filled, bare⟩ := usable.exclusions name listed
    refine mem_exclusions_iff.mpr ⟨filled, name, (written.exclude name).mpr listed, ?_⟩
    exact Text.coreOf_iff.mpr (Text.trimmed_of_bare bare).symm

theorem preferences_eq_of_writtenFrom {preferences : Preferences} (usable : Usable preferences)
    (increasing : Increasing compare preferences.exclusions) {settings : FinderSettings}
    (written : WrittenFrom preferences settings) : settings.preferences = preferences := by
  have depth : settings.preferences.depth = preferences.depth := by
    rw [FinderSettings.preferences, written.depth]
    exact Nat.max_eq_left usable.depth
  have entityAlias : settings.preferences.entityAlias = preferences.entityAlias := by
    rw [FinderSettings.preferences, written.entityAlias, usable.entityAlias, if_pos rfl]
  have exclusions := exclusions_of_writtenFrom usable increasing written
  have countQueries : settings.preferences.countQueries = preferences.countQueries := written.countQueries
  calc settings.preferences = ⟨settings.preferences.depth, settings.preferences.entityAlias,
        settings.preferences.countQueries, settings.preferences.exclusions⟩ := rfl
    _ = preferences := by rw [depth, entityAlias, countQueries, exclusions]

theorem TellsReplacements.eq_nil {settings : Settings} {preferences : Preferences} {warned : List String}
    (tells : TellsReplacements settings preferences warned) (depth : preferences.depth = settings.finder.depth)
    (entityAlias : preferences.entityAlias = settings.finder.entityAlias)
    (exclude : ∀ written ∈ settings.finder.exclude, Contributes written preferences) : warned = [] := by
  refine List.eq_nil_iff_forall_not_mem.mpr fun place present => ?_
  have listed := tells.ordered.subset present
  rw [places, List.mem_cons, List.mem_cons, List.mem_map] at listed
  obtain rfl | rfl | ⟨index, _, rfl⟩ := listed
  · exact tells.depth.mp present depth
  · exact tells.entityAlias.mp present entityAlias
  · obtain ⟨written, found, unused⟩ := (tells.exclude index).mp present
    exact unused (exclude written (List.mem_of_getElem? found))

theorem warnings_eq_nil_of_writtenFrom {preferences : Preferences} (usable : Usable preferences)
    {settings : Settings} (written : WrittenFrom preferences settings.finder)
    (same : settings.finder.preferences = preferences) : settings.warnings = [] := by
  have tells := tellsReplacements_warnedPlaces settings
  rw [same] at tells
  have silent : warnedPlaces settings = [] := by
    refine tells.eq_nil written.depth.symm written.entityAlias.symm fun name listed => ?_
    have excluded := (written.exclude name).mp listed
    exact ⟨name, excluded, Text.coreOf_iff.mpr (Text.trimmed_of_bare (usable.exclusions name excluded).2).symm⟩
  exact List.map_eq_nil_iff.mp silent

/-- Preferences are usable, warnings tell where they differ from the settings, and settings written from
them bring no warning and the same preferences. -/
theorem warnings_tell_replacements (settings : Settings) :
    Usable settings.finder.preferences ∧
    TellsReplacements settings settings.finder.preferences (warnedPlaces settings) ∧
    ∀ writtenBack : Settings, WrittenFrom settings.finder.preferences writtenBack.finder →
      writtenBack.warnings = [] ∧ writtenBack.finder.preferences = settings.finder.preferences := by
  have usable := usable_preferences settings.finder
  refine ⟨usable, tellsReplacements_warnedPlaces settings, fun writtenBack written => ?_⟩
  have same := preferences_eq_of_writtenFrom usable (Ordered.increasing_ofList _) written
  exact ⟨warnings_eq_nil_of_writtenFrom usable written same, same⟩

/-- Settings with something to replace at every place, and with a name that is given twice. -/
def carelessSettings : Settings where
  finder := { depth := 0, entityAlias := "1st", exclude := ["notes ", "", "\u3000notes", "auditTrail", " \t"] }

def writtenBackSettings : Settings where
  finder := { exclude := ["notes", "auditTrail"] }

theorem preferences_careless :
    carelessSettings.finder.preferences = { exclusions := ["auditTrail", "notes"] } := by
  decide +kernel

theorem writtenFrom_careless : WrittenFrom carelessSettings.finder.preferences writtenBackSettings.finder := by
  rw [preferences_careless]
  exact ⟨rfl, rfl, rfl, fun name => by simp [writtenBackSettings, or_comm]⟩

theorem warnings_tell_replacements_careless :
    warnedPlaces carelessSettings = ["finder.depth", "finder.alias", "finder.exclude[1]", "finder.exclude[4]"] ∧
    TellsReplacements carelessSettings { exclusions := ["auditTrail", "notes"] } (warnedPlaces carelessSettings) ∧
    WrittenFrom carelessSettings.finder.preferences writtenBackSettings.finder ∧
    writtenBackSettings.warnings = [] ∧
    writtenBackSettings.finder.preferences = { exclusions := ["auditTrail", "notes"] } := by
  obtain ⟨_, tells, writtenBack⟩ := warnings_tell_replacements carelessSettings
  obtain ⟨silent, same⟩ := writtenBack writtenBackSettings writtenFrom_careless
  rw [preferences_careless] at tells same
  exact ⟨by decide +kernel, tells, writtenFrom_careless, silent, same⟩

end QueryByName.Config
