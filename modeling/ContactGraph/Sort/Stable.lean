/-!
# Stable sorting

Elements are sorted by insertion : each one moves from the end of the sorted part past the elements
that it is smaller than. Elements that compare equal keep their order.
-/

namespace ContactGraph.Sort

variable {α : Type}

/-- Inserts `x` into a list in decreasing order : past the elements it is smaller than. -/
def insertDown (less : α → α → Bool) (x : α) : List α → List α
  | [] => [x]
  | y :: ys => if less x y then y :: insertDown less x ys else x :: y :: ys

/-- The elements of a list on top of those in decreasing order. -/
def sortDown (less : α → α → Bool) : List α → List α → List α
  | sorted, [] => sorted
  | sorted, x :: xs => sortDown less (insertDown less x sorted) xs

/-- The list sorted stably. -/
def stable (less : α → α → Bool) (xs : List α) : List α :=
  (sortDown less [] xs).reverse

/-- The list sorted stably by an ordering. -/
def stableBy (order : α → α → Ordering) (xs : List α) : List α :=
  stable (fun a b => order a b == .lt) xs

end ContactGraph.Sort
