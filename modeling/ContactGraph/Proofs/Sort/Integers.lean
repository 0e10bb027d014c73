import ContactGraph.Proofs.Number.Nearest
import ContactGraph.Proofs.Schema.Coercion
import ContactGraph.Proofs.Sort.Keys

/-!
# Integers as sort keys

The key of an integer is the double that it becomes (`read_integer`), so keys compare as the nearest
integers with 53 binary digits do, and not always as the integers themselves
(`order_ofInteger`). Lists of integers compare by `compareValues`; the lists of their keys compare
as these integers do after rounding (`compareAll_map_ofInteger`), and as they are where rounding
keeps different ones apart (`compareAll_of_keptApart`) : then a tie is a true one.
-/

namespace ContactGraph

/-! ## Order of rounded integers -/

namespace Double

variable {a b : Int}

/-- Rounding changes how two integers compare just when it makes one of them. -/
theorem compare_nearest_iff : compare (nearest a) (nearest b) = compare a b ↔
    (nearest a = nearest b → a = b) := by
  rcases Int.lt_trichotomy a b with h | rfl | h
  · have hle := nearest_mono h.le
    rw [compare_lt_iff_lt.mpr h, compare_lt_iff_lt]
    exact ⟨fun hlt heq => absurd heq hlt.ne, fun hne => lt_of_le_of_ne hle fun heq =>
      h.ne (hne heq)⟩
  · simp
  · have hle := nearest_mono h.le
    rw [compare_gt_iff_gt.mpr h, compare_gt_iff_gt]
    exact ⟨fun hlt heq => absurd heq.symm hlt.ne, fun hne => lt_of_le_of_ne hle fun heq =>
      h.ne' (hne heq.symm)⟩

end Double

namespace SortKey

variable {cell : Option String} {orders : List SortOrder} {xs ys : List (Option Int64)}

/-! ## Keys -/

/-- The key of an integer, or of none. -/
def ofInteger : Option Int64 → SortKey
  | none => .blank
  | some a => .number (Double.ofInt a.toInt)

/-- The integer in a cell. -/
def integer? (cell : Option String) : Option Int64 :=
  (cell.filter (· ≠ "")).bind fun raw => Number.signed? (Text.trim raw.toList)

/-- There is an integer in a cell, or nothing. -/
def IsIntegral (cell : Option String) : Prop :=
  cell.filter (· ≠ "") = none ∨ (integer? cell).isSome = true

instance (cell : Option String) : Decidable (IsIntegral cell) :=
  inferInstanceAs (Decidable (_ ∨ _))

/-- The key of a cell is that of the integer in it. -/
theorem read_integer (h : IsIntegral cell) : read cell .integer = ofInteger (integer? cell) := by
  unfold IsIntegral integer? at h
  unfold read integer?
  cases hcell : cell.filter (· ≠ "") with
  | none => rfl
  | some raw =>
    rw [hcell] at h
    obtain ⟨a, ha⟩ := Option.isSome_iff_exists.mp (h.resolve_left (Option.some_ne_none raw))
    rw [Option.bind_some] at ha
    simp [isTyped, ValueType.read?, ha, ofValue?, ofInteger]

/-- The decimal text of an integer is a cell with it. -/
theorem integer?_toText (a : Int64) : integer? (some (Value.integer a).toText) = some a := by
  have hread := Number.signed?_intDigits a
  have hne : (Value.integer a).toText ≠ "" := by
    intro h
    have hnil : Number.intDigits a.toInt = [] := String.ofList_eq_empty_iff.mp h
    rw [hnil] at hread
    cases hread
  rw [integer?, Option.filter_some, if_pos (decide_eq_true hne), Option.bind_some, Value.toText,
    String.toList_ofList, ValueType.trim_intDigits, hread]

theorem read_toText (a : Int64) :
    read (some (Value.integer a).toText) .integer = ofInteger (some a) := by
  have hcell := integer?_toText a
  rw [read_integer (.inr (by rw [hcell]; rfl)), hcell]

theorem natAbs_toInt_le (a : Int64) : a.toInt.natAbs ≤ 2 ^ 63 := by
  have hlow := a.le_toInt
  have hhigh := a.toInt_lt
  omega

/-- What is left of an integer when it becomes a double. -/
def rounded (a : Int64) : Int :=
  Double.nearest a.toInt

/-- Keys of integers compare as what is left of them. -/
theorem order_ofInteger (a b : Option Int64) :
    (ofInteger a).order (ofInteger b) = compare (a.map rounded) (b.map rounded) := by
  have hbound (a : Int64) : a.toInt.natAbs < 2 ^ 64 :=
    (natAbs_toInt_le a).trans_lt (by decide)
  cases a with
  | none => cases b <;> rfl
  | some a =>
    cases b with
    | none => rfl
    | some b => exact Double.order_ofInt (hbound a) (hbound b)

/-- How the keys of two integers in decimal digits compare. -/
structure ComparesTexts (a b : Int64) : Prop where
  /-- They compare as what is left of the integers when they become doubles. -/
  order_eq : (read (some (Value.integer a).toText) .integer).order
      (read (some (Value.integer b).toText) .integer) =
    compare (rounded a) (rounded b)
  /-- That is how the integers compare, unless two different ones become the same. -/
  eq_compare_iff : (read (some (Value.integer a).toText) .integer).order
      (read (some (Value.integer b).toText) .integer) = compare a.toInt b.toInt ↔
    (rounded a = rounded b → a = b)
  /-- Up to `2 ^ 53` no two do. -/
  precise : a.toInt.natAbs ≤ 2 ^ 53 → b.toInt.natAbs ≤ 2 ^ 53 →
    (read (some (Value.integer a).toText) .integer).order
      (read (some (Value.integer b).toText) .integer) = compare a.toInt b.toInt
  /-- Nor do two that are further apart than 1024. -/
  apart : a.toInt + 1024 < b.toInt → (read (some (Value.integer a).toText) .integer).order
    (read (some (Value.integer b).toText) .integer) = .lt

theorem comparesTexts (a b : Int64) : ComparesTexts a b := by
  have horder : (read (some (Value.integer a).toText) .integer).order
      (read (some (Value.integer b).toText) .integer) =
      compare (rounded a) (rounded b) := by
    rw [read_toText, read_toText, order_ofInteger]
    rfl
  constructor
  · exact horder
  · rw [horder, rounded, rounded, Double.compare_nearest_iff, Int64.toInt_inj]
  · intro ha hb
    rw [horder, rounded, rounded, Double.nearest_eq_self ha, Double.nearest_eq_self hb]
  · intro h
    rw [horder, compare_lt_iff_lt]
    exact Double.nearest_lt (natAbs_toInt_le a) (natAbs_toInt_le b) h

/-! ## Lists of integers -/

/-- Order of two lists of integers, of which `f` is compared, by the first sort order that tells
them apart. No integer at all is lower than any. -/
def compareValues (f : Int64 → Int) :
    List SortOrder → List (Option Int64) → List (Option Int64) → Ordering
  | o :: os, a :: as, b :: bs =>
    (o.direction.apply (compare (a.map f) (b.map f))).then (compareValues f os as bs)
  | _, _, _ => .eq

/-- No two different integers at the same place become the same double. -/
def KeptApart (xs ys : List (Option Int64)) : Prop :=
  ∀ p ∈ xs.zip ys, p.1.map rounded = p.2.map rounded → p.1 = p.2

-- going through the list, not through all pairs of integers that there are
instance (xs ys : List (Option Int64)) : Decidable (KeptApart xs ys) :=
  List.decidableBAll
    (fun p : Option Int64 × Option Int64 => p.1.map rounded = p.2.map rounded → p.1 = p.2)
    (xs.zip ys)

theorem compareAll_map_ofInteger (orders : List SortOrder) (xs ys : List (Option Int64)) :
    compareAll orders (xs.map ofInteger) (ys.map ofInteger) =
      compareValues rounded orders xs ys := by
  induction orders generalizing xs ys with
  | nil => rfl
  | cons o os ih =>
    cases xs with
    | nil => rfl
    | cons x xs =>
      cases ys with
      | nil => rfl
      | cons y ys =>
        rw [List.map_cons, List.map_cons, compareAll, compareValues, order_ofInteger, ih]

theorem compare_map_rounded {a b : Option Int64} (h : a.map rounded = b.map rounded → a = b) :
    compare (a.map rounded) (b.map rounded) = compare (a.map Int64.toInt) (b.map Int64.toInt) := by
  cases a with
  | none => cases b <;> rfl
  | some a =>
    cases b with
    | none => rfl
    | some b =>
      refine Double.compare_nearest_iff.mpr fun heq => ?_
      exact congrArg Int64.toInt (Option.some.inj (h (congrArg some heq)))

/-- Where rounding keeps integers apart, their keys compare as they do. -/
theorem compareValues_of_keptApart (orders : List SortOrder) (h : KeptApart xs ys) :
    compareValues rounded orders xs ys =
      compareValues Int64.toInt orders xs ys := by
  induction orders generalizing xs ys with
  | nil => rfl
  | cons o os ih =>
    cases xs with
    | nil => rfl
    | cons x xs =>
      cases ys with
      | nil => rfl
      | cons y ys =>
        rw [KeptApart, List.zip_cons_cons, List.forall_mem_cons] at h
        rw [compareValues, compareValues, compare_map_rounded h.1, ih h.2]

theorem apply_eq_eq_iff (d : SortDirection) (r : Ordering) : d.apply r = .eq ↔ r = .eq := by
  cases d <;> cases r <;> decide

/-- Lists of integers are tied when they are the same. -/
theorem compareValues_eq_eq_iff (hxs : xs.length = orders.length)
    (hys : ys.length = orders.length) : compareValues Int64.toInt orders xs ys = .eq ↔ xs = ys := by
  induction orders generalizing xs ys with
  | nil =>
    rw [List.eq_nil_of_length_eq_zero hxs, List.eq_nil_of_length_eq_zero hys]
    exact iff_of_true rfl rfl
  | cons o os ih =>
    obtain ⟨x, xs, rfl⟩ := List.exists_cons_of_length_eq_add_one hxs
    obtain ⟨y, ys, rfl⟩ := List.exists_cons_of_length_eq_add_one hys
    have hhead : compare (x.map Int64.toInt) (y.map Int64.toInt) = .eq ↔ x = y := by
      rw [Std.LawfulEqOrd.compare_eq_iff_eq]
      exact (Option.map_injective fun _ _ => Int64.toInt_inj.mp).eq_iff
    rw [compareValues, Ordering.then_eq_eq, apply_eq_eq_iff, hhead,
      ih (Nat.succ.inj hxs) (Nat.succ.inj hys), List.cons.injEq]

end SortKey

end ContactGraph
