import Mathlib.Data.List.Sort
import QueryByName.Ordered

/-! # Members of ordered lists

What the ordered list of some items holds.  The comparison may call different items equal, so
membership is read off by a search: `lookup?_ofList` says that looking for an item in the ordered
list finds the *last* given item that compares equal to it.  Together with `increasing_ofList`
this determines the list.

Slots are read the same way: a search goes through them from the lowest slot, which holds the
latest items, and `findSome?_carry` says that carrying a run puts it before all of them.
-/

namespace QueryByName.Ordered

variable {α : Type} {order : α → α → Ordering}

def Increasing (order : α → α → Ordering) (items : List α) : Prop :=
  items.Pairwise fun earlier later => order earlier later = .lt

/-- Comparing by a key is as transitive as the comparison of the keys. -/
theorem transCmp_key {β : Type} (order : α → α → Ordering) [Std.TransCmp order] (key : β → α) :
    Std.TransCmp fun left right => order (key left) (key right) where
  eq_swap := Std.OrientedCmp.eq_swap
  isLE_trans before after := Std.TransCmp.isLE_trans before after

def lookup? (order : α → α → Ordering) (key : α) (items : List α) : Option α :=
  items.find? fun item => order key item == .eq

@[simp] theorem lookup?_nil (key : α) : lookup? order key [] = none := rfl

theorem lookup?_append (key : α) (items further : List α) :
    lookup? order key (items ++ further) = (lookup? order key items).or (lookup? order key further) :=
  List.find?_append

/-! ## Merging -/

@[simp] theorem merge_nil_left (right : List α) : merge order [] right = right := rfl

@[simp] theorem merge_nil_right (left : List α) : merge order left [] = left := by
  cases left <;> rfl

theorem merge_cons_cons (head item : α) (tail rest : List α) :
    merge order (head :: tail) (item :: rest) =
      match order head item with
      | .lt => head :: merge order tail (item :: rest)
      | .eq => item :: merge order tail rest
      | .gt => item :: merge order (head :: tail) rest := rfl

theorem mem_of_mem_merge {left right : List α} {member : α}
    (present : member ∈ merge order left right) : member ∈ left ∨ member ∈ right := by
  induction left generalizing right with
  | nil => exact .inr present
  | cons head tail tailHypothesis =>
    induction right with
    | nil => exact .inl present
    | cons item rest restHypothesis =>
      rw [merge_cons_cons] at present
      cases compared : order head item with
      | lt =>
        rw [compared] at present
        cases List.mem_cons.mp present with
        | inl here =>
          subst here
          exact .inl List.mem_cons_self
        | inr later => exact (tailHypothesis later).imp_left (List.mem_cons_of_mem _)
      | eq =>
        rw [compared] at present
        cases List.mem_cons.mp present with
        | inl here =>
          subst here
          exact .inr List.mem_cons_self
        | inr later => exact (tailHypothesis later).imp (List.mem_cons_of_mem _) (List.mem_cons_of_mem _)
      | gt =>
        rw [compared] at present
        cases List.mem_cons.mp present with
        | inl here =>
          subst here
          exact .inr List.mem_cons_self
        | inr later => exact (restHypothesis later).imp_right (List.mem_cons_of_mem _)

variable [Std.TransCmp order]

theorem lt_of_lt_head {key item : α} {rest : List α} (before : order key item = .lt)
    (increasing : Increasing order (item :: rest)) : ∀ member ∈ item :: rest, order key member = .lt := by
  obtain ⟨itemFirst, _⟩ := List.pairwise_cons.mp increasing
  intro member present
  cases List.mem_cons.mp present with
  | inl here =>
    rw [here]
    exact before
  | inr later => exact Std.TransCmp.lt_trans before (itemFirst member later)

theorem increasing_merge {left right : List α} (leftIncreasing : Increasing order left)
    (rightIncreasing : Increasing order right) : Increasing order (merge order left right) := by
  induction left generalizing right with
  | nil => exact rightIncreasing
  | cons head tail tailHypothesis =>
    induction right with
    | nil => exact leftIncreasing
    | cons item rest restHypothesis =>
      obtain ⟨headFirst, tailIncreasing⟩ := List.pairwise_cons.mp leftIncreasing
      obtain ⟨itemFirst, restIncreasing⟩ := List.pairwise_cons.mp rightIncreasing
      rw [merge_cons_cons]
      cases compared : order head item with
      | lt =>
        refine List.pairwise_cons.mpr ⟨fun member present => ?_, tailHypothesis tailIncreasing rightIncreasing⟩
        cases mem_of_mem_merge present with
        | inl inTail => exact headFirst member inTail
        | inr inRight => exact lt_of_lt_head compared rightIncreasing member inRight
      | eq =>
        have itemFirstInTail : ∀ member ∈ tail, order item member = .lt := fun member inTail =>
          Std.TransCmp.lt_of_eq_of_lt (Std.OrientedCmp.eq_comm.mp compared) (headFirst member inTail)
        refine List.pairwise_cons.mpr ⟨fun member present => ?_, tailHypothesis tailIncreasing restIncreasing⟩
        cases mem_of_mem_merge present with
        | inl inTail => exact itemFirstInTail member inTail
        | inr inRest => exact itemFirst member inRest
      | gt =>
        -- the second list goes on alone, and the first one is kept whole
        have itemBeforeHead : order item head = .lt := Std.OrientedCmp.gt_iff_lt.mp compared
        refine List.pairwise_cons.mpr ⟨fun member present => ?_, restHypothesis restIncreasing⟩
        cases mem_of_mem_merge present with
        | inl inLeft => exact lt_of_lt_head itemBeforeHead leftIncreasing member inLeft
        | inr inRest => exact itemFirst member inRest

/-- Nothing in an increasing list compares equal to what stands before its first item. -/
theorem lookup?_eq_none_of_lt {key item : α} {rest : List α} (before : order key item = .lt)
    (increasing : Increasing order (item :: rest)) : lookup? order key (item :: rest) = none := by
  refine List.find?_eq_none.mpr fun member present => ?_
  rw [lt_of_lt_head before increasing member present]
  simp

/-- In a merged list the items of the second list hide those of the first. -/
theorem lookup?_merge (key : α) {left right : List α} (rightIncreasing : Increasing order right) :
    lookup? order key (merge order left right) =
      (lookup? order key right).or (lookup? order key left) := by
  induction left generalizing right with
  | nil => simp
  | cons head tail tailHypothesis =>
    induction right with
    | nil => simp
    | cons item rest restHypothesis =>
      have restIncreasing := (List.pairwise_cons.mp rightIncreasing).2
      rw [merge_cons_cons]
      cases compared : order head item with
      | lt =>
        have tailFound := tailHypothesis rightIncreasing
        cases found : order key head with
        | eq =>
          -- the key stands before the whole second list, so only the first can hold it
          have before : order key item = .lt := Std.TransCmp.lt_of_eq_of_lt found compared
          rw [lookup?_eq_none_of_lt before rightIncreasing]
          simp [lookup?, found]
        | lt | gt => simpa [lookup?, List.find?_cons, found] using tailFound
      | eq =>
        -- of two equal heads the one of the second list stays
        have tailFound := tailHypothesis restIncreasing
        have alike : order key head = order key item := Std.TransCmp.congr_right compared
        cases found : order key item with
        | eq => simp [lookup?, found]
        | lt | gt => simpa [lookup?, List.find?_cons, alike, found] using tailFound
      | gt =>
        have restFound := restHypothesis restIncreasing
        cases found : order key item with
        | eq => simp [lookup?, found]
        | lt | gt => simpa [lookup?, List.find?_cons, found] using restFound

/-! ## Slots -/

omit [Std.TransCmp order] in
theorem findSome?_cons_eq_or (key : α) (first : List α) (slots : List (List α)) :
    (first :: slots).findSome? (lookup? order key) =
      (lookup? order key first).or (slots.findSome? (lookup? order key)) := by
  cases found : lookup? order key first <;> simp [found]

omit [Std.TransCmp order] in
theorem carry_cons_cons (run : List α) (head : α) (tail : List α) (slots : List (List α)) :
    carry order run ((head :: tail) :: slots) = [] :: carry order (merge order (head :: tail) run) slots := rfl

theorem increasing_carry {run : List α} {slots : List (List α)} (runIncreasing : Increasing order run)
    (slotsIncreasing : ∀ held ∈ slots, Increasing order held) :
    ∀ held ∈ carry order run slots, Increasing order held := by
  induction slots generalizing run with
  | nil => simpa [carry] using runIncreasing
  | cons first slots inductionHypothesis =>
    obtain ⟨firstIncreasing, restIncreasing⟩ := List.forall_mem_cons.mp slotsIncreasing
    cases first with
    | nil => exact List.forall_mem_cons.mpr ⟨runIncreasing, restIncreasing⟩
    | cons head tail =>
      refine List.forall_mem_cons.mpr ⟨List.Pairwise.nil, ?_⟩
      exact inductionHypothesis (increasing_merge firstIncreasing runIncreasing) restIncreasing

theorem findSome?_carry (key : α) {run : List α} {slots : List (List α)}
    (runIncreasing : Increasing order run) (slotsIncreasing : ∀ held ∈ slots, Increasing order held) :
    (carry order run slots).findSome? (lookup? order key) =
      (lookup? order key run).or (slots.findSome? (lookup? order key)) := by
  induction slots generalizing run with
  | nil => rw [carry, findSome?_cons_eq_or]
  | cons first slots inductionHypothesis =>
    obtain ⟨firstIncreasing, restIncreasing⟩ := List.forall_mem_cons.mp slotsIncreasing
    cases first with
    | nil => rw [carry, findSome?_cons_eq_or, findSome?_cons_eq_or, lookup?_nil, Option.none_or]
    | cons head tail =>
      -- the slot is taken, so its run goes on to the next one, behind the newer run
      have carried := inductionHypothesis (increasing_merge firstIncreasing runIncreasing) restIncreasing
      rw [lookup?_merge key runIncreasing, Option.or_assoc] at carried
      rw [carry_cons_cons, findSome?_cons_eq_or, lookup?_nil, Option.none_or, findSome?_cons_eq_or]
      exact carried

theorem increasing_foldl_carry (items : List α) {slots : List (List α)}
    (slotsIncreasing : ∀ held ∈ slots, Increasing order held) :
    ∀ held ∈ items.foldl (fun slots item => carry order [item] slots) slots, Increasing order held := by
  induction items generalizing slots with
  | nil => exact slotsIncreasing
  | cons item items inductionHypothesis =>
    exact inductionHypothesis (increasing_carry (List.pairwise_singleton _ item) slotsIncreasing)

theorem findSome?_foldl_carry (key : α) (items : List α) {slots : List (List α)}
    (slotsIncreasing : ∀ held ∈ slots, Increasing order held) :
    (items.foldl (fun slots item => carry order [item] slots) slots).findSome? (lookup? order key) =
      (lookup? order key items.reverse).or (slots.findSome? (lookup? order key)) := by
  induction items generalizing slots with
  | nil => rfl
  | cons item items inductionHypothesis =>
    have single : Increasing order [item] := List.pairwise_singleton _ item
    rw [List.foldl_cons, inductionHypothesis (increasing_carry single slotsIncreasing),
      findSome?_carry key single slotsIncreasing, List.reverse_cons, lookup?_append, Option.or_assoc]

theorem increasing_foldl_merge {slots : List (List α)} {later : List α}
    (slotsIncreasing : ∀ held ∈ slots, Increasing order held) (laterIncreasing : Increasing order later) :
    Increasing order (slots.foldl (fun later held => merge order held later) later) := by
  induction slots generalizing later with
  | nil => exact laterIncreasing
  | cons first slots inductionHypothesis =>
    obtain ⟨firstIncreasing, restIncreasing⟩ := List.forall_mem_cons.mp slotsIncreasing
    exact inductionHypothesis restIncreasing (increasing_merge firstIncreasing laterIncreasing)

theorem lookup?_foldl_merge (key : α) {slots : List (List α)} {later : List α}
    (slotsIncreasing : ∀ held ∈ slots, Increasing order held) (laterIncreasing : Increasing order later) :
    lookup? order key (slots.foldl (fun later held => merge order held later) later) =
      (lookup? order key later).or (slots.findSome? (lookup? order key)) := by
  induction slots generalizing later with
  | nil => simp
  | cons first slots inductionHypothesis =>
    obtain ⟨firstIncreasing, restIncreasing⟩ := List.forall_mem_cons.mp slotsIncreasing
    rw [List.foldl_cons, inductionHypothesis restIncreasing (increasing_merge firstIncreasing laterIncreasing),
      lookup?_merge key laterIncreasing, Option.or_assoc, findSome?_cons_eq_or]

/-! ## The ordered list of given items -/

theorem increasing_ofList (items : List α) : Increasing order (ofList order items) :=
  increasing_foldl_merge (increasing_foldl_carry items (by simp)) List.Pairwise.nil

/-- Searching the ordered list finds the last given item that compares equal to the key. -/
theorem lookup?_ofList (key : α) (items : List α) :
    lookup? order key (ofList order items) = lookup? order key items.reverse := by
  rw [ofList, lookup?_foldl_merge key (increasing_foldl_carry items (by simp)) List.Pairwise.nil,
    findSome?_foldl_carry key items (by simp)]
  simp

theorem Increasing.eq_of_compare {items : List α} (increasing : Increasing order items) {left right : α}
    (leftPresent : left ∈ items) (rightPresent : right ∈ items) (same : order left right = .eq) :
    left = right := by
  induction items with
  | nil => cases leftPresent
  | cons head tail inductionHypothesis =>
    obtain ⟨headFirst, tailIncreasing⟩ := List.pairwise_cons.mp increasing
    cases List.mem_cons.mp leftPresent with
    | inl leftHere =>
      cases List.mem_cons.mp rightPresent with
      | inl rightHere => rw [leftHere, rightHere]
      | inr rightLater =>
        rw [leftHere, headFirst right rightLater] at same
        cases same
    | inr leftLater =>
      cases List.mem_cons.mp rightPresent with
      | inl rightHere =>
        rw [rightHere, Std.OrientedCmp.eq_comm, headFirst left leftLater] at same
        cases same
      | inr rightLater => exact inductionHypothesis tailIncreasing leftLater rightLater

theorem Increasing.eq_of_mem_iff {left right : List α} (leftIncreasing : Increasing order left)
    (rightIncreasing : Increasing order right) (same : ∀ member, member ∈ left ↔ member ∈ right) : left = right := by
  have irreflexive : Std.Irrefl fun left right => order left right = .lt := by
    constructor
    intro item before
    have self : order item item = .eq := Std.ReflCmp.compare_self
    rw [self] at before
    cases before
  have antisymmetric : Std.Antisymm fun left right => order left right = .lt := by
    constructor
    intro first second before after
    have swapped : order first second = (order second first).swap := Std.OrientedCmp.eq_swap
    rw [swapped, after] at before
    cases before
  exact List.Pairwise.eq_of_mem_iff leftIncreasing rightIncreasing same

theorem Increasing.mem_iff_lookup? {items : List α} (increasing : Increasing order items) {member : α} :
    member ∈ items ↔ lookup? order member items = some member := by
  constructor
  · intro present
    have searched : (lookup? order member items).isSome :=
      List.find?_isSome.mpr ⟨member, present, by simp [Std.ReflCmp.compare_self]⟩
    obtain ⟨kept, found⟩ := Option.isSome_iff_exists.mp searched
    -- what is found compares equal to the member, and only the member itself does
    have same : order member kept = .eq := by simpa using List.find?_some found
    rw [found, increasing.eq_of_compare present (List.mem_of_find?_eq_some found) same]
  · exact List.mem_of_find?_eq_some

/-- Of the given items that compare equal, the last one is in the ordered list. -/
theorem mem_ofList_iff_lookup? {items : List α} {member : α} :
    member ∈ ofList order items ↔ lookup? order member items.reverse = some member := by
  rw [(increasing_ofList items).mem_iff_lookup?, lookup?_ofList]

/-- The ordered list holds the items that no later item compares equal to. -/
theorem mem_ofList_iff_last {items : List α} {member : α} :
    member ∈ ofList order items ↔
      ∃ before after, items = before ++ member :: after ∧ ∀ later ∈ after, order member later ≠ .eq := by
  rw [mem_ofList_iff_lookup?, lookup?, List.find?_eq_some_iff_append]
  -- the search runs from the end, so what it passes over stands after the member
  constructor
  · rintro ⟨_, passed, rest, split, unequal⟩
    refine ⟨rest.reverse, passed.reverse, ?_, fun later present => ?_⟩
    · rw [← List.reverse_inj, split]
      simp
    · simpa using unequal later (List.mem_reverse.mp present)
  · rintro ⟨before, after, rfl, unequal⟩
    have found : order member member = .eq := Std.ReflCmp.compare_self
    refine ⟨by simp [found], after.reverse, before.reverse, by simp, fun later present => ?_⟩
    simpa using unequal later (List.mem_reverse.mp present)

theorem mem_of_mem_ofList {items : List α} {member : α} (present : member ∈ ofList order items) :
    member ∈ items :=
  List.mem_reverse.mp (List.mem_of_find?_eq_some (mem_ofList_iff_lookup?.mp present))

theorem exists_mem_ofList {items : List α} {given : α} (present : given ∈ items) :
    ∃ kept ∈ ofList order items, order given kept = .eq := by
  have searched : (lookup? order given items.reverse).isSome :=
    List.find?_isSome.mpr ⟨given, List.mem_reverse.mpr present, by simp [Std.ReflCmp.compare_self]⟩
  obtain ⟨kept, found⟩ := Option.isSome_iff_exists.mp searched
  rw [← lookup?_ofList] at found
  exact ⟨kept, List.mem_of_find?_eq_some found, by simpa using List.find?_some found⟩

/-- Under a comparison that tells different items apart, no given item is lost. -/
theorem mem_ofList_iff [Std.LawfulEqCmp order] {items : List α} {member : α} :
    member ∈ ofList order items ↔ member ∈ items := by
  refine ⟨mem_of_mem_ofList, fun present => ?_⟩
  obtain ⟨kept, keptPresent, same⟩ : ∃ kept ∈ ofList order items, order member kept = .eq :=
    exists_mem_ofList present
  rw [Std.LawfulEqCmp.eq_of_compare same]
  exact keptPresent

end QueryByName.Ordered
