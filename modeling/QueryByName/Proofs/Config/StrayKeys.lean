import QueryByName.Config.Loading
import QueryByName.Proofs.Ordered

/-! # Stray keys

Keys that are no settings do not count.  A document loads as what is left of it without them
(`loadDocument_withoutStrays`), and the notes name exactly the keys left out, together with one more
path for each date that stands where a table is expected (`mem_unknownKeys_iff`).

Notes are made apart from the settings.  A pass that reads both at once, meets the entries one after
the other and stops at the first mismatch, comes to the same (`loadWatching_eq`): what it has met by
the end are the strays of the document, and what it has met before a mismatch is not told.
-/

namespace QueryByName.Config

open QueryByName.Ordered (Increasing)
open QueryByName.Toml (Document Value)

/-! ## Documents without strays -/

def finderKeys : List String :=
  ["depth", "alias", "count_queries", "exclude"]

def logKeys : List String :=
  ["level", "json"]

/-- The keys that are settings of the table under a key of the document, if there is such a table. -/
def keysBelow? (key : String) : Option (List String) :=
  if key = "finder" then some finderKeys
  else if key = "logging" then some logKeys
  else none

/-- The entries that are kept, in their order, with what is kept of their values. -/
def keptEntries (keep : String → Value → Option Value) (entries : List (String × Value)) : List (String × Value) :=
  entries.filterMap fun entry => (keep entry.1 entry.2).map fun kept => (entry.1, kept)

def keptBelow (keys : List String) : Value → Value
  | .table entries => .table (keptEntries (fun key value => if key ∈ keys then some value else none) entries)
  | other => other

/-- A document with every key left out that its table does not know. -/
def withoutStrays (document : Document) : Document :=
  keptEntries (fun key value => (keysBelow? key).map fun keys => keptBelow keys value) document

/-- A path of a key that its table does not know: a key of the document, or one of a table in it. -/
inductive IsStray (document : Document) : String → Prop where
  | key {key : String} {value : Value} (listed : (key, value) ∈ document) (unknown : keysBelow? key = none) :
      IsStray document key
  | below {table key : String} {keys : List String} {entries : List (String × Value)} {value : Value}
      (given : (table, .table entries) ∈ document) (known : keysBelow? table = some keys)
      (listed : (key, value) ∈ entries) (unknown : key ∉ keys) : IsStray document (table ++ "." ++ key)

/-- A path that stands for a date in the place of a table. -/
inductive IsDate (document : Document) : String → Prop where
  | date {table : String} {keys : List String} (given : (table, .dateTime) ∈ document)
      (known : keysBelow? table = some keys) : IsDate document (table ++ "." ++ Shape.dateTimeKey)

theorem keptEntries_cons_none {keep : String → Value → Option Value} {key : String} {value : Value}
    (dropped : keep key value = none) (rest : List (String × Value)) :
    keptEntries keep ((key, value) :: rest) = keptEntries keep rest :=
  List.filterMap_cons_none (by rw [dropped]; rfl)

theorem keptEntries_cons_some {keep : String → Value → Option Value} {key : String} {value kept : Value}
    (keeps : keep key value = some kept) (rest : List (String × Value)) :
    keptEntries keep ((key, value) :: rest) = (key, kept) :: keptEntries keep rest :=
  List.filterMap_cons_some (by rw [keeps]; rfl)

theorem mem_keptEntries_iff {keep : String → Value → Option Value} {entries : List (String × Value)} {key : String}
    {kept : Value} :
    (key, kept) ∈ keptEntries keep entries ↔ ∃ value, (key, value) ∈ entries ∧ keep key value = some kept := by
  simp only [keptEntries, List.mem_filterMap, Option.map_eq_some_iff, Prod.mk.injEq, Prod.exists]
  constructor
  · rintro ⟨_, value, listed, _, keeps, rfl, rfl⟩
    exact ⟨value, listed, keeps⟩
  · rintro ⟨value, listed, keeps⟩
    exact ⟨key, value, listed, kept, keeps, rfl, rfl⟩

theorem mem_withoutStrays_iff {document : Document} {key : String} {kept : Value} :
    (key, kept) ∈ withoutStrays document ↔
      ∃ value keys, (key, value) ∈ document ∧ keysBelow? key = some keys ∧ kept = keptBelow keys value := by
  simp only [withoutStrays, mem_keptEntries_iff, Option.map_eq_some_iff, eq_comm (a := kept)]
  constructor
  · rintro ⟨value, listed, keys, known, keeps⟩
    exact ⟨value, keys, listed, known, keeps⟩
  · rintro ⟨value, keys, listed, known, keeps⟩
    exact ⟨value, listed, keys, known, keeps⟩

theorem eq_table_of_keptBelow {keys : List String} {value : Value} {kept : List (String × Value)}
    (keeps : .table kept = keptBelow keys value) : ∃ entries, value = .table entries ∧
      kept = keptEntries (fun key value => if key ∈ keys then some value else none) entries := by
  cases value with
  | table entries => exact ⟨entries, rfl, Value.table.inj keeps⟩
  | string | integer | float | boolean | dateTime | array => cases keeps

theorem eq_dateTime_of_keptBelow {keys : List String} {value : Value} (keeps : .dateTime = keptBelow keys value) :
    value = .dateTime := by
  cases value with
  | dateTime => rfl
  | string | integer | float | boolean | array | table => cases keeps

theorem not_isStray_withoutStrays (document : Document) (path : String) : ¬ IsStray (withoutStrays document) path := by
  intro stray
  cases stray with
  | key listed unknown =>
    obtain ⟨_, keys, _, known, _⟩ := mem_withoutStrays_iff.mp listed
    rw [unknown] at known
    cases known
  | @below table key keys kept value given known listed unknown =>
    obtain ⟨_, others, _, knownOthers, keeps⟩ := mem_withoutStrays_iff.mp given
    obtain rfl := Option.some.inj (known.symm.trans knownOthers)
    obtain ⟨entries, _, rfl⟩ := eq_table_of_keptBelow keeps
    obtain ⟨_, _, keepsKey⟩ := mem_keptEntries_iff.mp listed
    rw [if_neg unknown] at keepsKey
    cases keepsKey

theorem isDate_withoutStrays_iff {document : Document} {path : String} :
    IsDate (withoutStrays document) path ↔ IsDate document path := by
  constructor
  · rintro ⟨given, known⟩
    obtain ⟨_, _, listed, _, keeps⟩ := mem_withoutStrays_iff.mp given
    obtain rfl := eq_dateTime_of_keptBelow keeps
    exact .date listed known
  · rintro ⟨given, known⟩
    exact .date (mem_withoutStrays_iff.mpr ⟨_, _, given, known, rfl⟩) known

/-! ## Reading what is kept -/

namespace Shape

variable {Table : Type} {shape : Shape Table}

theorem slot?_eq_none_iff {key : String} : shape.slot? key = none ↔ key ∉ shape.map (·.key) := by
  simp [slot?]

theorem mem_keys_of_slot? {key : String} {slot : Slot Table} (found : shape.slot? key = some slot) :
    key ∈ shape.map (·.key) := by
  refine Decidable.byContradiction fun unknown => ?_
  rw [slot?_eq_none_iff.mpr unknown] at found
  cases found

theorem readEntries_of_unknown {key : String} (unknown : shape.slot? key = none) (value : Value)
    (rest : List (String × Value)) (table : Table) :
    shape.readEntries ((key, value) :: rest) table = shape.readEntries rest table := by
  rw [readEntries, unknown]

theorem readEntries_of_known {key : String} {slot : Slot Table} (known : shape.slot? key = some slot) (value : Value)
    (rest : List (String × Value)) (table : Table) :
    shape.readEntries ((key, value) :: rest) table =
      (slot.set value table).bind fun changed => shape.readEntries rest changed := by
  rw [readEntries, known]
  dsimp only
  cases slot.set value table <;> rfl

/-- Entries may go, and values may change, as long as no setting takes notice. -/
theorem readEntries_keptEntries {keep : String → Value → Option Value}
    (keeps : ∀ key slot, shape.slot? key = some slot → ∀ value, ∃ kept, keep key value = some kept ∧
      ∀ table, slot.set kept table = slot.set value table) (entries : List (String × Value)) (table : Table) :
    shape.readEntries (keptEntries keep entries) table = shape.readEntries entries table := by
  induction entries generalizing table with
  | nil => rfl
  | cons entry rest inductionHypothesis =>
    obtain ⟨key, value⟩ := entry
    cases known : shape.slot? key with
    | none =>
      rw [readEntries_of_unknown known]
      cases kept : keep key value with
      | none => rw [keptEntries_cons_none kept, inductionHypothesis]
      | some _ => rw [keptEntries_cons_some kept, readEntries_of_unknown known, inductionHypothesis]
    | some slot =>
      obtain ⟨_, kept, alike⟩ := keeps key slot known value
      rw [keptEntries_cons_some kept, readEntries_of_known known, readEntries_of_known known, alike]
      simp only [inductionHypothesis]

theorem read_keptBelow {keys : List String} (known : shape.map (·.key) = keys) (expected : Expectation) (value : Value)
    (table : Table) : shape.read expected (keptBelow keys value) table = shape.read expected value table := by
  cases value with
  | table entries =>
    refine readEntries_keptEntries (fun key slot found value => ⟨value, if_pos ?_, fun _ => rfl⟩) entries table
    rw [← known]
    exact mem_keys_of_slot? found
  | string | integer | float | boolean | dateTime | array => rfl

/-- Whether the settings of a table are single values, which hold no strays. -/
def Flat (shape : Shape Table) : Prop :=
  ∀ slot ∈ shape, ∀ value, slot.strays value = []

theorem entryStrays_of_unknown {key : String} (unknown : shape.slot? key = none) (value : Value)
    (rest : List (String × Value)) :
    shape.entryStrays ((key, value) :: rest) = key :: shape.entryStrays rest := by
  simp [entryStrays, unknown]

theorem entryStrays_of_known {key : String} {slot : Slot Table} (known : shape.slot? key = some slot) (value : Value)
    (rest : List (String × Value)) :
    shape.entryStrays ((key, value) :: rest) =
      (slot.strays value).map (key ++ "." ++ ·) ++ shape.entryStrays rest := by
  simp [entryStrays, known]

theorem mem_entryStrays_iff {entries : List (String × Value)} {path : String} :
    path ∈ shape.entryStrays entries ↔ ∃ key value, (key, value) ∈ entries ∧
      ((shape.slot? key = none ∧ path = key) ∨
        ∃ slot, shape.slot? key = some slot ∧ ∃ below ∈ slot.strays value, path = key ++ "." ++ below) := by
  simp only [entryStrays, List.mem_flatMap, Prod.exists]
  refine exists₂_congr fun key value => and_congr_right fun _ => ?_
  cases shape.slot? key with
  | none => simp
  | some slot => simp [eq_comm]

theorem strays_of_flat (flat : shape.Flat) {key : String} {slot : Slot Table} (found : shape.slot? key = some slot)
    (value : Value) : slot.strays value = [] :=
  flat slot (List.mem_of_find?_eq_some found) value

theorem mem_entryStrays_iff_of_flat (flat : shape.Flat) {entries : List (String × Value)} {path : String} :
    path ∈ shape.entryStrays entries ↔ ∃ value, (path, value) ∈ entries ∧ path ∉ shape.map (·.key) := by
  rw [mem_entryStrays_iff]
  constructor
  · rintro ⟨key, value, listed, ⟨unknown, rfl⟩ | ⟨slot, known, below, present, _⟩⟩
    · exact ⟨value, listed, slot?_eq_none_iff.mp unknown⟩
    · rw [strays_of_flat flat known] at present
      cases present
  · rintro ⟨value, listed, unknown⟩
    exact ⟨path, value, listed, .inl ⟨slot?_eq_none_iff.mpr unknown, rfl⟩⟩

theorem mem_strays_iff (flat : shape.Flat) {value : Value} {path : String} :
    path ∈ shape.strays value ↔
      (∃ entries inner, value = .table entries ∧ (path, inner) ∈ entries ∧ path ∉ shape.map (·.key)) ∨
        (value = .dateTime ∧ path = dateTimeKey) := by
  cases value with
  | table entries => simpa [strays] using mem_entryStrays_iff_of_flat flat
  | dateTime | string | integer | float | boolean | array => simp [strays]

end Shape

/-! ## The tables of a document -/

theorem flat_finderShape : finderShape.Flat := by
  simp [Shape.Flat, finderShape, Slot.single]

theorem flat_logShape : logShape.Flat := by
  simp [Shape.Flat, logShape, Slot.single]

/-- Whether a setting of a document is a table with the given keys: it takes no notice of others, and
they are its strays. -/
structure IsTable (slot : Slot Settings) (keys : List String) : Prop where
  set_keptBelow : ∀ value settings, slot.set (keptBelow keys value) settings = slot.set value settings
  mem_strays_iff : ∀ value path, path ∈ slot.strays value ↔
    (∃ entries inner, value = .table entries ∧ (path, inner) ∈ entries ∧ path ∉ keys) ∨
      (value = .dateTime ∧ path = Shape.dateTimeKey)

theorem exists_slot_of_known {key : String} {keys : List String} (known : keysBelow? key = some keys) :
    ∃ slot, rootShape.slot? key = some slot ∧ IsTable slot keys := by
  rw [keysBelow?] at known
  split at known
  next isFinder =>
    obtain rfl := Option.some.inj known
    subst isFinder
    refine ⟨_, rfl, fun value settings => ?_, fun _ _ => Shape.mem_strays_iff flat_finderShape⟩
    have same : finderShape.read .finderTable (keptBelow finderKeys value) {} =
        finderShape.read .finderTable value {} :=
      Shape.read_keptBelow rfl .finderTable value _
    dsimp only
    rw [same]
  next =>
    split at known
    next isLog =>
      obtain rfl := Option.some.inj known
      subst isLog
      refine ⟨_, rfl, fun value settings => ?_, fun _ _ => Shape.mem_strays_iff flat_logShape⟩
      have same : logShape.read .logTable (keptBelow logKeys value) {} =
          logShape.read .logTable value {} :=
        Shape.read_keptBelow rfl .logTable value _
      dsimp only
      rw [same]
    next => cases known

theorem slot?_of_unknown {key : String} (unknown : keysBelow? key = none) : rootShape.slot? key = none := by
  rw [Shape.slot?_eq_none_iff]
  intro listed
  have named : key = "finder" ∨ key = "logging" := by simpa [rootShape] using listed
  obtain rfl | rfl := named <;> cases unknown

theorem loadDocument_withoutStrays (document : Document) :
    loadDocument (withoutStrays document) = loadDocument document := by
  have same : Settings.ofDocument (withoutStrays document) = Settings.ofDocument document := by
    refine Shape.readEntries_keptEntries (fun key slot found value => ?_) document _
    cases known : keysBelow? key with
    | none =>
      rw [slot?_of_unknown known] at found
      cases found
    | some keys =>
      obtain ⟨table, tableFound, isTable⟩ := exists_slot_of_known known
      obtain rfl := Option.some.inj (found.symm.trans tableFound)
      exact ⟨keptBelow keys value, rfl, isTable.set_keptBelow value⟩
  rw [loadDocument, loadDocument, same]

theorem mem_unknownKeys_iff {document : Document} {path : String} :
    path ∈ unknownKeys document ↔ IsStray document path ∨ IsDate document path := by
  rw [unknownKeys, Ordered.mem_ofList_iff, Shape.mem_entryStrays_iff]
  constructor
  · rintro ⟨key, value, given, ⟨unknown, rfl⟩ | ⟨slot, found, below, present, rfl⟩⟩
    · cases known : keysBelow? path with
      | none => exact .inl (.key given known)
      | some keys =>
        obtain ⟨_, found, _⟩ := exists_slot_of_known known
        rw [unknown] at found
        cases found
    · cases known : keysBelow? key with
      | none =>
        rw [slot?_of_unknown known] at found
        cases found
      | some keys =>
        obtain ⟨table, tableFound, isTable⟩ := exists_slot_of_known known
        obtain rfl := Option.some.inj (found.symm.trans tableFound)
        obtain ⟨entries, inner, rfl, listed, unknown⟩ | ⟨rfl, rfl⟩ := (isTable.mem_strays_iff value below).mp present
        · exact .inl (.below given known listed unknown)
        · exact .inr (.date given known)
  · rintro ((⟨given, unknown⟩ | ⟨given, known, listed, unknown⟩) | ⟨given, known⟩)
    · exact ⟨_, _, given, .inl ⟨slot?_of_unknown unknown, rfl⟩⟩
    · obtain ⟨slot, found, isTable⟩ := exists_slot_of_known known
      exact ⟨_, _, given, .inr ⟨slot, found, _,
        (isTable.mem_strays_iff _ _).mpr (.inl ⟨_, _, rfl, listed, unknown⟩), rfl⟩⟩
    · obtain ⟨slot, found, isTable⟩ := exists_slot_of_known known
      exact ⟨_, _, given, .inr ⟨slot, found, _, (isTable.mem_strays_iff _ _).mpr (.inr ⟨rfl, rfl⟩), rfl⟩⟩

/-! ## Settings and strays in one pass -/

/-- What a pass comes to: its outcome, and the paths of the strays that it has met by then. -/
structure Pass (Table : Type) where
  outcome : Except Mismatch Table
  met : List String

namespace Pass

variable {Table Further : Type}

/-- Goes on from where a pass has come to; after a mismatch nothing more is met. -/
def next (pass : Pass Table) (further : Table → List String → Pass Further) : Pass Further :=
  match pass.outcome with
  | .error mismatch => ⟨.error mismatch, pass.met⟩
  | .ok table => further table pass.met

/-- Whether a pass has the given outcome and, if that is no mismatch, has met the given strays. -/
structure Agrees (pass : Pass Table) (outcome : Except Mismatch Table) (strays : List String) : Prop where
  outcome_eq : pass.outcome = outcome
  met_eq : ∀ table, outcome = .ok table → pass.met = strays

theorem Agrees.next {pass : Pass Table} {outcome : Except Mismatch Table} {strays : List String}
    (agrees : pass.Agrees outcome strays) {further : Table → List String → Pass Further}
    {after : Table → Except Mismatch Further} {all : List String}
    (goesOn : ∀ table, (further table strays).Agrees (after table) all) :
    (pass.next further).Agrees (outcome.bind after) all := by
  obtain ⟨rfl, met⟩ := agrees
  cases reached : pass.outcome with
  | error mismatch =>
    rw [Pass.next, reached]
    exact ⟨rfl, fun _ impossible => by cases impossible⟩
  | ok table =>
    rw [Pass.next, reached]
    dsimp only
    rw [met table reached]
    exact goesOn table

end Pass

namespace Shape

variable {Table : Type}

/-- Meets the entries of a table one after the other. -/
def watchEntries (shape : Shape Table) (above : String) :
    List (String × Value) → Table → List String → Pass Table
  | [], table, met => ⟨.ok table, met⟩
  | (key, value) :: rest, table, met =>
    match shape.slot? key with
    | none => watchEntries shape above rest table (met ++ [above ++ key])
    | some slot => Pass.next ⟨slot.set value table, met⟩ fun changed met => watchEntries shape above rest changed met

def watch (shape : Shape Table) (expected : Expectation) (above : String) (value : Value) (table : Table)
    (met : List String) : Pass Table :=
  match value with
  | .table entries => shape.watchEntries above entries table met
  | .array elements => ⟨shape.readElements elements table, met⟩
  | .dateTime => ⟨.ok table, met ++ [above ++ dateTimeKey]⟩
  | other => ⟨.error ⟨other, expected⟩, met⟩

end Shape

/-- Reads a document, and listens for strays while reading. -/
def watchDocument : Document → Settings → List String → Pass Settings
  | [], settings, met => ⟨.ok settings, met⟩
  | (key, value) :: rest, settings, met =>
    if key = "finder" then
      (finderShape.watch .finderTable (key ++ ".") value {} met).next fun finder met =>
        watchDocument rest { settings with finder } met
    else if key = "logging" then
      (logShape.watch .logTable (key ++ ".") value {} met).next fun log met =>
        watchDocument rest { settings with log } met
    else watchDocument rest settings (met ++ [key])

def loadWatching (text : String) : Except LoadFailure (Settings × Notes) :=
  (documentOf text).bind fun document =>
    match watchDocument document {} [] with
    | ⟨.error mismatch, _⟩ => .error (.unfit mismatch)
    | ⟨.ok settings, met⟩ => .ok (settings, ⟨Ordered.ofList compare met, settings.warnings⟩)

theorem Shape.watchEntries_agrees {Table : Type} {shape : Shape Table} (flat : shape.Flat) (above : String)
    (entries : List (String × Value)) (table : Table) (met : List String) :
    (shape.watchEntries above entries table met).Agrees (shape.readEntries entries table)
      (met ++ (shape.entryStrays entries).map (above ++ ·)) := by
  induction entries generalizing table met with
  | nil => exact ⟨rfl, fun _ _ => (List.append_nil met).symm⟩
  | cons entry rest inductionHypothesis =>
    obtain ⟨key, value⟩ := entry
    rw [watchEntries]
    cases known : shape.slot? key with
    | none =>
      rw [readEntries_of_unknown known, entryStrays_of_unknown known]
      have further := inductionHypothesis table (met ++ [above ++ key])
      rwa [List.append_assoc] at further
    | some slot =>
      rw [readEntries_of_known known, entryStrays_of_known known, strays_of_flat flat known]
      have here : Pass.Agrees ⟨slot.set value table, met⟩ (slot.set value table) met := ⟨rfl, fun _ _ => rfl⟩
      exact here.next fun changed => inductionHypothesis changed met

theorem Shape.watch_agrees {Table : Type} {shape : Shape Table} (flat : shape.Flat) (expected : Expectation)
    (above : String) (value : Value) (table : Table) (met : List String) :
    (shape.watch expected above value table met).Agrees (shape.read expected value table)
      (met ++ (shape.strays value).map (above ++ ·)) := by
  cases value with
  | table entries => exact watchEntries_agrees flat above entries table met
  | dateTime => exact ⟨rfl, fun _ _ => rfl⟩
  | array | string | integer | float | boolean => exact ⟨rfl, fun _ _ => (List.append_nil met).symm⟩

theorem Shape.watch_next_agrees {Table : Type} {shape : Shape Table} (flat : shape.Flat) (expected : Expectation)
    (above : String) (value : Value) (table : Table) (met : List String) {change : Table → Settings}
    {further : Settings → List String → Pass Settings} {after : Settings → Except Mismatch Settings}
    {strays : List String}
    (goesOn : ∀ settings met, (further settings met).Agrees (after settings) (met ++ strays)) :
    ((shape.watch expected above value table met).next fun changed met => further (change changed) met).Agrees
      (((shape.read expected value table).map change).bind after)
      (met ++ ((shape.strays value).map (above ++ ·) ++ strays)) := by
  have joined : ((shape.read expected value table).map change).bind after =
      (shape.read expected value table).bind fun changed => after (change changed) := by
    cases shape.read expected value table <;> rfl
  rw [joined, ← List.append_assoc]
  exact (watch_agrees flat expected above value table met).next fun changed => goesOn (change changed) _

theorem watchDocument_agrees (document : Document) (settings : Settings) (met : List String) :
    (watchDocument document settings met).Agrees (rootShape.readEntries document settings)
      (met ++ rootShape.entryStrays document) := by
  induction document generalizing settings met with
  | nil => exact ⟨rfl, fun _ _ => (List.append_nil met).symm⟩
  | cons entry rest inductionHypothesis =>
    obtain ⟨key, value⟩ := entry
    rw [watchDocument]
    split
    next isFinder =>
      subst isFinder
      rw [Shape.readEntries_of_known rfl, Shape.entryStrays_of_known rfl]
      exact Shape.watch_next_agrees flat_finderShape _ _ _ _ _ inductionHypothesis
    next notFinder =>
      split
      next isLog =>
        subst isLog
        rw [Shape.readEntries_of_known rfl, Shape.entryStrays_of_known rfl]
        exact Shape.watch_next_agrees flat_logShape _ _ _ _ _ inductionHypothesis
      next notLog =>
        have unknown : rootShape.slot? key = none := slot?_of_unknown (by simp [keysBelow?, notFinder, notLog])
        rw [Shape.readEntries_of_unknown unknown, Shape.entryStrays_of_unknown unknown]
        have further := inductionHypothesis settings (met ++ [key])
        rwa [List.append_assoc] at further

/-- Reading and listening in one pass is reading, with notes made apart. -/
theorem loadWatching_eq (text : String) : loadWatching text = loadTextWithNotes text := by
  refine congrArg _ (funext fun document => ?_)
  obtain ⟨outcome, met⟩ := watchDocument_agrees document {} []
  rw [loadDocumentWithNotes, loadDocument, Settings.ofDocument, ← outcome]
  cases pass : watchDocument document {} [] with
  | mk reached strays =>
    rw [pass] at outcome met
    cases reached with
    | error mismatch => rfl
    | ok settings =>
      have all : strays = rootShape.entryStrays document := met settings outcome.symm
      rw [all]
      rfl

/-! ## Strays in notes -/

theorem loadText_eq_withNotes (text : String) : (loadTextWithNotes text).map Prod.fst = loadText text := by
  rw [loadTextWithNotes, loadText]
  cases documentOf text with
  | error failure => rfl
  | ok document =>
    show (loadDocumentWithNotes document).map Prod.fst = loadDocument document
    rw [loadDocumentWithNotes]
    cases loadDocument document <;> rfl

theorem loadDocumentWithNotes_of_loads {document : Document} {settings : Settings}
    (loaded : loadDocument document = .ok settings) :
    loadDocumentWithNotes document = .ok (settings, ⟨unknownKeys document, settings.warnings⟩) := by
  rw [loadDocumentWithNotes, loaded]
  rfl

theorem mem_unknownKeys_withoutStrays_iff {document : Document} {path : String} :
    path ∈ unknownKeys (withoutStrays document) ↔ IsDate document path := by
  rw [mem_unknownKeys_iff, or_iff_right (not_isStray_withoutStrays document path), isDate_withoutStrays_iff]

/-- The notes tell of the strays alone exactly if no date stands in the place of a table. -/
theorem tells_strays_iff (document : Document) :
    ((∀ path, path ∈ unknownKeys document ↔ IsStray document path) ∧ unknownKeys (withoutStrays document) = []) ↔
      ∀ path, ¬ IsDate document path := by
  constructor
  · rintro ⟨_, nothing⟩ path isDate
    have told := mem_unknownKeys_withoutStrays_iff.mpr isDate
    rw [nothing] at told
    cases told
  · intro noDate
    refine ⟨fun path => ?_, List.eq_nil_iff_forall_not_mem.mpr fun path told => ?_⟩
    · rw [mem_unknownKeys_iff, or_iff_left (noDate path)]
    · exact noDate path (mem_unknownKeys_withoutStrays_iff.mp told)

/-- Both ways of loading agree, a document loads as it does without its strays, and the notes name the
strays that are left out and the dates that are not. -/
theorem strays_are_inert (document : Document) :
    (∀ text, loadWatching text = loadTextWithNotes text ∧ (loadTextWithNotes text).map Prod.fst = loadText text) ∧
    loadDocument (withoutStrays document) = loadDocument document ∧
    ∀ settings, loadDocument document = .ok settings → ∃ notes fewer,
      loadDocumentWithNotes document = .ok (settings, notes) ∧
      loadDocumentWithNotes (withoutStrays document) = .ok (settings, fewer) ∧
      Increasing compare notes.unknownKeys ∧
      (∀ path, path ∈ notes.unknownKeys ↔ IsStray document path ∨ IsDate document path) ∧
      (∀ path, path ∈ fewer.unknownKeys ↔ IsDate document path) ∧
      ((∀ path, path ∈ notes.unknownKeys ↔ IsStray document path) ∧ fewer.unknownKeys = [] ↔
        ∀ path, ¬ IsDate document path) := by
  refine ⟨fun text => ⟨loadWatching_eq text, loadText_eq_withNotes text⟩, loadDocument_withoutStrays document, ?_⟩
  intro settings loaded
  have fewerLoaded := (loadDocument_withoutStrays document).trans loaded
  exact ⟨_, _, loadDocumentWithNotes_of_loads loaded, loadDocumentWithNotes_of_loads fewerLoaded,
    Ordered.increasing_ofList _, fun path => mem_unknownKeys_iff, fun path => mem_unknownKeys_withoutStrays_iff,
    tells_strays_iff document⟩

def strayDocument : Document :=
  [("title", .table [("depth", .integer 0)]),
    ("finder", .table [("dept", .string "3"), ("depth", .integer 2), ("b.c", .array [])]), ("logging", .dateTime)]

theorem strays_are_inert_nested :
    loadDocument strayDocument = .ok { finder := { depth := 2 } } ∧
    unknownKeys strayDocument = ["finder.b.c", "finder.dept", "logging.$__toml_private_datetime", "title"] ∧
    withoutStrays strayDocument = [("finder", .table [("depth", .integer 2)]), ("logging", .dateTime)] ∧
    ∃ notes fewer, loadDocumentWithNotes strayDocument = .ok ({ finder := { depth := 2 } }, notes) ∧
      loadDocumentWithNotes (withoutStrays strayDocument) = .ok ({ finder := { depth := 2 } }, fewer) ∧
      Increasing compare notes.unknownKeys ∧
      (∀ path, path ∈ notes.unknownKeys ↔ IsStray strayDocument path ∨ IsDate strayDocument path) ∧
      ∀ path, path ∈ fewer.unknownKeys ↔ IsDate strayDocument path := by
  have loaded : loadDocument strayDocument = .ok { finder := { depth := 2 } } := by with_unfolding_all rfl
  obtain ⟨_, _, loads⟩ := strays_are_inert strayDocument
  obtain ⟨notes, fewer, told, toldFewer, increasing, strays, dates, _⟩ := loads _ loaded
  exact ⟨loaded, by decide +kernel, rfl, notes, fewer, told, toldFewer, increasing, strays, dates⟩

/-! ## A date in the place of a table -/

def dateText : String :=
  "finder = 1979-05-27"

def dateDocument : Document :=
  [("finder", .dateTime)]

theorem not_isStray_dateDocument (path : String) (dotted : path ≠ "finder") : ¬ IsStray dateDocument path := by
  intro stray
  cases stray with
  | key listed _ =>
    have same := congrArg Prod.fst (List.mem_singleton.mp listed)
    exact dotted same
  | below given _ _ _ => cases congrArg Prod.snd (List.mem_singleton.mp given)

/-- A date is told of under a key that is in no document. -/
theorem not_every_unknownKey_stray : ¬ ∀ text document, documentOf text = .ok document →
    ∀ settings, loadText text = .ok settings → ∃ notes fewer,
      loadTextWithNotes text = .ok (settings, notes) ∧
      loadDocumentWithNotes (withoutStrays document) = .ok (settings, fewer) ∧
      Increasing compare notes.unknownKeys ∧
      (∀ path, path ∈ notes.unknownKeys ↔ IsStray document path) ∧
      fewer.unknownKeys = [] := by
  intro claimed
  obtain ⟨notes, _, told, _, _, strays, _⟩ :=
    claimed dateText dateDocument (by with_unfolding_all rfl) {} (by with_unfolding_all rfl)
  have tells : loadTextWithNotes dateText = .ok ({}, ⟨["finder.$__toml_private_datetime"], []⟩) := by
    with_unfolding_all rfl
  rw [tells] at told
  obtain rfl := congrArg Prod.snd (Except.ok.inj told)
  exact not_isStray_dateDocument _ (by decide) ((strays _).mp (List.mem_singleton_self _))

end QueryByName.Config
