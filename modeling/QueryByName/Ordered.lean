/-!
# Ordered lists without repetition

A finite set under a comparison is kept as the increasing list of its members.  Where two
members compare equal without being the same, the one given last stands for both.

* `merge` joins two increasing lists in time proportional to their lengths.
* `ofList` merges runs of growing length, so that each item takes part in few merges: slot
  number `k` is empty or holds the run of `2 ^ k` items, and later items stand in lower slots.
-/

namespace QueryByName.Ordered

variable {α : Type}

/-- Merges the increasing list `head :: tail` with another one, given how its tail is merged. -/
def mergeHead (order : α → α → Ordering) (head : α) (tail : List α)
    (mergeTail : List α → List α) : List α → List α
  | [] => head :: tail
  | item :: rest =>
    match order head item with
    | .lt => head :: mergeTail (item :: rest)
    | .eq => item :: mergeTail rest
    | .gt => item :: mergeHead order head tail mergeTail rest

/-- The increasing list of the members of two increasing lists.  Where members compare equal
the one of the second list is kept. -/
def merge (order : α → α → Ordering) : List α → List α → List α
  | [] => id
  | head :: tail => mergeHead order head tail (merge order tail)

/-- Puts a run into the first empty slot, together with the runs in the slots before it. -/
def carry (order : α → α → Ordering) (run : List α) : List (List α) → List (List α)
  | [] => [run]
  | [] :: slots => run :: slots
  | held :: slots => [] :: carry order (merge order held run) slots

/-- The increasing list of the given items. -/
def ofList (order : α → α → Ordering) (items : List α) : List α :=
  (items.foldl (fun slots item => carry order [item] slots) []).foldl
    (fun later held => merge order held later) []

/-- All the given items in increasing order; items that compare equal keep their places. -/
def sorted (order : α → α → Ordering) (items : List α) : List α :=
  items.mergeSort fun left right => (order left right).isLE

end QueryByName.Ordered
