import QueryByName.Log.Effective
import QueryByName.Proofs.Ordered

/-! # The filter in effect, as a table

Settings and environment are read as one text with a comma between them.  `InTable` says what should
come of it without joining any texts: the two filters are read apart, and that of the environment
overrides that of the settings target by target.

Nothing is assumed of a directive except that it is read from its own piece of the text
(`ReadsByPieces`).  So a joined text is a filter exactly if both parts are (`isSome_joined_iff`), and
its directives are those of the first part followed by those of the second.  Keeping the last one for
every target then amounts to overriding (`overridden_ofDirectives`).
-/

namespace QueryByName.Log

open QueryByName.Ordered (Increasing lookup?)

/-! ## The order of targets -/

instance transCmpLongerFirst : Std.TransCmp fun left right : String =>
    (compare right.utf8ByteSize left.utf8ByteSize).then (compare right left) :=
  inferInstanceAs (Std.TransCmp fun left right => compareLex (compareOn String.utf8ByteSize) compare right left)

instance : Std.TransCmp Directive.targetOrder where
  eq_swap {left right} := by
    cases left with
    | none => cases right <;> rfl
    | some left =>
      cases right with
      | none => rfl
      | some right => exact transCmpLongerFirst.eq_swap
  isLE_trans {first second third} before after := by
    cases third with
    | none => cases first <;> rfl
    | some third =>
      cases second with
      | none => cases after
      | some second =>
        cases first with
        | none => cases before
        | some first => exact transCmpLongerFirst.isLE_trans before after

theorem targetOrder_eq_iff {left right : Option String} : Directive.targetOrder left right = .eq ↔ left = right := by
  cases left with
  | none => cases right <;> simp [Directive.targetOrder]
  | some left =>
    cases right with
    | none => simp [Directive.targetOrder]
    | some right =>
      rw [Directive.targetOrder, Ordering.then_eq_eq]
      constructor
      · rintro ⟨_, same⟩
        rw [Std.LawfulEqCmp.eq_of_compare same]
      · intro same
        obtain rfl := Option.some.inj same
        exact ⟨Std.ReflCmp.compare_self, Std.ReflCmp.compare_self⟩

instance : Std.TransCmp Directive.order :=
  Ordered.transCmp_key Directive.targetOrder Directive.target

/-! ## Overriding -/

/-- The directives of `base`, overridden target by target by those of `further`, with one for each
target. -/
structure Overridden (base further result : Filter) : Prop where
  increasing : Increasing Directive.order result
  mem_iff : ∀ directive, directive ∈ result ↔ directive ∈ further ∨
    (directive ∈ base ∧ ∀ other ∈ further, other.target ≠ directive.target)

theorem Overridden.unique {base further result other : Filter} (overridden : Overridden base further result)
    (otherwise : Overridden base further other) : result = other :=
  overridden.increasing.eq_of_mem_iff otherwise.increasing fun directive =>
    (overridden.mem_iff directive).trans (otherwise.mem_iff directive).symm

theorem lookup?_eq_none_iff {directive : Directive} {filter : Filter} :
    lookup? Directive.order directive filter = none ↔ ∀ other ∈ filter, other.target ≠ directive.target := by
  rw [lookup?, List.find?_eq_none]
  refine forall₂_congr fun other _ => ?_
  rw [beq_iff_eq, Directive.order, targetOrder_eq_iff, eq_comm]

/-- The last directive for every target, of two rows one after the other. -/
theorem overridden_ofDirectives (directives further : List Directive) :
    Overridden (Filter.ofDirectives directives) (Filter.ofDirectives further)
      (Filter.ofDirectives (directives ++ further)) where
  increasing := Ordered.increasing_ofList _
  mem_iff directive := by
    -- the last directive for a target is looked for in the second row, and then in the first
    rw [← lookup?_eq_none_iff]
    unfold Filter.ofDirectives
    rw [Ordered.lookup?_ofList, Ordered.mem_ofList_iff_lookup?, Ordered.mem_ofList_iff_lookup?,
      Ordered.mem_ofList_iff_lookup?, List.reverse_append, Ordered.lookup?_append, Option.or_eq_some_iff]
    exact or_congr_right and_comm

/-! ## Reading joined texts -/

/-- A text is split at commas, empty pieces are dropped, and each other piece is read on its own; a piece
that is no directive fails the whole text. -/
def ReadsByPieces (parse? : String → Option Filter) : Prop :=
  ∃ ofPiece? : List Char → Option Directive, ∀ text,
    parse? text = ((Filter.pieces text).mapM ofPiece?).map Filter.ofDirectives

theorem readsByPieces_parse? : ReadsByPieces Filter.parse? :=
  ⟨Directive.ofPiece?, fun _ => rfl⟩

theorem pieces_joined (first second : String) :
    Filter.pieces (first ++ "," ++ second) = Filter.pieces first ++ Filter.pieces second := by
  have letters : (first ++ "," ++ second).toList = first.toList ++ ',' :: second.toList := by simp
  rw [Filter.pieces, letters, List.splitOn_append_cons_self, List.filter_append]
  rfl

variable {parse? : String → Option Filter}

theorem parse?_joined_of_some (reads : ReadsByPieces parse?) {first second : String} {base further : Filter}
    (firstRead : parse? first = some base) (secondRead : parse? second = some further) :
    ∃ joined, parse? (first ++ "," ++ second) = some joined ∧ Overridden base further joined := by
  obtain ⟨ofPiece?, byPieces⟩ := reads
  rw [byPieces, Option.map_eq_some_iff] at firstRead secondRead
  obtain ⟨directives, directivesRead, rfl⟩ := firstRead
  obtain ⟨others, othersRead, rfl⟩ := secondRead
  refine ⟨_, ?_, overridden_ofDirectives directives others⟩
  rw [byPieces, pieces_joined, List.mapM_append, directivesRead, othersRead]
  rfl

theorem isSome_joined_iff (reads : ReadsByPieces parse?) (first second : String) :
    (parse? (first ++ "," ++ second)).isSome ↔ (parse? first).isSome ∧ (parse? second).isSome := by
  obtain ⟨ofPiece?, byPieces⟩ := reads
  simp only [byPieces, Option.isSome_map, pieces_joined, List.mapM_append]
  cases (Filter.pieces first).mapM ofPiece? with
  | none => simp
  | some _ => cases (Filter.pieces second).mapM ofPiece? <;> simp

/-! ## The table -/

/-- What the environment says, without the blanks around it, if it says more than blanks. -/
def said? (environment : Option String) : Option String :=
  (environment.map Text.trimmed).filter (· ≠ "")

/-- The filter in effect, given the filters that the settings and the environment denote, if they denote
any. -/
inductive InTable : Option Filter → Option Filter → Filter → Prop where
  | both {settings environment filter : Filter} (overridden : Overridden settings environment filter) :
      InTable (some settings) (some environment) filter
  | settings (filter : Filter) : InTable (some filter) none filter
  | environment (filter : Filter) : InTable none (some filter) filter
  | neither : InTable none none fallback

theorem InTable.unique {settings environment : Option Filter} {filter other : Filter}
    (inTable : InTable settings environment filter) (otherwise : InTable settings environment other) :
    filter = other := by
  cases inTable with
  | both overridden =>
    cases otherwise with
    | both otherOverridden => exact overridden.unique otherOverridden
  | settings | environment | neither => cases otherwise; rfl

theorem inTable_settingsFilter (level : String) :
    InTable (parse? (normalized level)) none (settingsFilter parse? level) := by
  rw [settingsFilter]
  cases parse? (normalized level) with
  | none => exact .neither
  | some filter => exact .settings filter

theorem inTable_combinedFilter (reads : ReadsByPieces parse?) (level environment : String) :
    InTable (parse? (normalized level)) (parse? environment) (combinedFilter parse? level environment) := by
  have both := isSome_joined_iff reads (normalized level) environment
  rw [combinedFilter]
  cases environmentRead : parse? environment with
  | none =>
    -- the settings are what is left, read once more
    have unread : parse? (normalized level ++ "," ++ environment) = none := by simpa [environmentRead] using both
    rw [unread]
    exact inTable_settingsFilter level
  | some filter =>
    cases settingsRead : parse? (normalized level) with
    | none =>
      have unread : parse? (normalized level ++ "," ++ environment) = none := by simpa [settingsRead] using both
      rw [unread]
      exact .environment filter
    | some settings =>
      obtain ⟨joined, read, overridden⟩ := parse?_joined_of_some reads settingsRead environmentRead
      rw [read]
      exact .both overridden

theorem filterInEffect_eq (level : String) (environment : Option String) :
    filterInEffect parse? level environment =
      match said? environment with
      | none => settingsFilter parse? level
      | some text => combinedFilter parse? level text := by
  cases environment with
  | none => rfl
  | some text =>
    by_cases blank : Text.trimmed text = ""
    · simp [filterInEffect, said?, Text.isBlank, blank, Option.filter_some]
    · simp [filterInEffect, said?, Text.isBlank, blank, Option.filter_some]

/-- The filter in effect is the one in the table, and the settings and the environment form a filter
together exactly if each of them does. -/
theorem filterInEffect_table (reads : ReadsByPieces parse?) (level : String) (environment : Option String) :
    (∀ filter, InTable (parse? (normalized level)) ((said? environment).bind parse?) filter ↔
      filter = filterInEffect parse? level environment) ∧
    ∀ text, said? environment = some text →
      ((parse? (normalized level ++ "," ++ text)).isSome ↔
        (parse? (normalized level)).isSome ∧ (parse? text).isSome) := by
  have inTable : InTable (parse? (normalized level)) ((said? environment).bind parse?)
      (filterInEffect parse? level environment) := by
    rw [filterInEffect_eq]
    cases said? environment with
    | none => exact inTable_settingsFilter level
    | some text => exact inTable_combinedFilter reads level text
  refine ⟨fun filter => ⟨fun otherwise => otherwise.unique inTable, ?_⟩, fun text _ => isSome_joined_iff reads _ text⟩
  rintro rfl
  exact inTable

def mixedLevel : String :=
  "roost=2,,roost.finder=debug,roost=info,warn"

def mixedEnvironment : String :=
  " roost.finder=trace,x,roost.finder=off,error,, "

theorem filterInEffect_table_mixed :
    ReadsByPieces Filter.parse? ∧
    Filter.parse? (normalized mixedLevel) =
      some [⟨some "roost.finder", .debug⟩, ⟨some "roost", .info⟩, ⟨none, .warn⟩] ∧
    (said? (some mixedEnvironment)).bind Filter.parse? =
      some [⟨some "roost.finder", .off⟩, ⟨some "x", .trace⟩, ⟨none, .error⟩] ∧
    InTable (Filter.parse? (normalized mixedLevel)) ((said? (some mixedEnvironment)).bind Filter.parse?)
      (effectiveFilter mixedLevel (some mixedEnvironment)) ∧
    effectiveFilter mixedLevel (some mixedEnvironment) =
      [⟨some "roost.finder", .off⟩, ⟨some "roost", .info⟩, ⟨some "x", .trace⟩, ⟨none, .error⟩] := by
  obtain ⟨inTable, _⟩ := filterInEffect_table readsByPieces_parse? mixedLevel (some mixedEnvironment)
  refine ⟨readsByPieces_parse?, ?_, ?_, (inTable _).mpr rfl, ?_⟩
  · decide +kernel
  · decide +kernel
  · decide +kernel

end QueryByName.Log
