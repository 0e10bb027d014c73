import ContactGraph.Proofs.Sort.Preorder
import ContactGraph.Reading.SortKey

/-!
# Orders of sort keys

`SortKey.order` is a total preorder on keys of four kinds, and so is either direction of it.
`SortKey.compareAll` goes through lists of keys by several sort orders; it is a preorder on the
lists that have a key for every sort order (`weakOrderOn_compareAll`). On shorter lists it is not :
a missing key is like any other.
-/

namespace ContactGraph

open Std

/-! ## Single keys -/

instance : TransCmp Double.order :=
  inferInstanceAs (TransCmp (compareOn Double.rank))

instance : TransCmp Date.order :=
  inferInstanceAs (TransCmp
    (compareLex (compareOn Date.year) (compareLex (compareOn Date.month) (compareOn Date.day))))

/-- An order of one part of things is an order of the things. -/
theorem transCmp_on {α β : Type} (f : α → β) (cmp : β → β → Ordering) [TransCmp cmp] :
    TransCmp fun a b => cmp (f a) (f b) where
  eq_swap := OrientedCmp.eq_swap
  isLE_trans := TransCmp.isLE_trans

instance : TransCmp Instant.order :=
  have := transCmp_on Instant.date Date.order
  inferInstanceAs (TransCmp (compareLex (fun a b : Instant => a.date.order b.date)
    (compareLex (compareOn Instant.second) (compareOn Instant.nano))))

namespace SortKey

/-- Keys of different kinds are compared by their kinds. -/
theorem order_of_rank_ne {a b : SortKey} (h : a.rank ≠ b.rank) :
    a.order b = compare a.rank b.rank := by
  cases a <;> cases b <;> first | rfl | exact absurd rfl h

/-- A key that does not come after another is not of a later kind. -/
theorem rank_le_of_isLE {a b : SortKey} (h : (a.order b).isLE) : a.rank ≤ b.rank := by
  by_cases hne : a.rank = b.rank
  · exact Nat.le_of_eq hne
  · rw [order_of_rank_ne hne, Nat.isLE_compare] at h
    exact h

instance : OrientedCmp SortKey.order where
  eq_swap {a b} := by
    cases a with
    | blank => cases b <;> rfl
    | number x =>
      cases b with
      | number y => exact @OrientedCmp.eq_swap _ Double.order _ x y
      | _ => rfl
    | time i =>
      cases b with
      | time j => exact @OrientedCmp.eq_swap _ Instant.order _ i j
      | _ => rfl
    | text s =>
      cases b with
      | text u => exact @OrientedCmp.eq_swap _ compare _ s u
      | _ => rfl

instance : TransCmp SortKey.order where
  isLE_trans {a b c} hab hbc := by
    by_cases hac : a.rank = c.rank
    · -- then the key between them is of their kind too
      have hb : b.rank = a.rank :=
        Nat.le_antisymm (hac ▸ rank_le_of_isLE hbc) (rank_le_of_isLE hab)
      cases a with
      | blank =>
        cases c with
        | blank => rfl
        | _ => cases hac
      | number x =>
        cases b with
        | number y =>
          cases c with
          | number z => exact @TransCmp.isLE_trans _ Double.order _ x y z hab hbc
          | _ => cases hac
        | _ => cases hb
      | time i =>
        cases b with
        | time j =>
          cases c with
          | time k => exact @TransCmp.isLE_trans _ Instant.order _ i j k hab hbc
          | _ => cases hac
        | _ => cases hb
      | text s =>
        cases b with
        | text u =>
          cases c with
          | text w => exact @TransCmp.isLE_trans _ compare _ s u w hab hbc
          | _ => cases hac
        | _ => cases hb
    · rw [order_of_rank_ne hac, Nat.isLE_compare]
      exact Nat.le_trans (rank_le_of_isLE hab) (rank_le_of_isLE hbc)

/-- The order of keys in the direction of a sort order. -/
def orderBy (o : SortOrder) (a b : SortKey) : Ordering :=
  o.direction.apply (a.order b)

theorem preorderOn_orderBy (o : SortOrder) (P : SortKey → Prop) : PreorderOn (orderBy o) P :=
  (PreorderOn.of_transCmp SortKey.order).apply o.direction

/-! ## Lists of keys -/

theorem compareAll_cons (o : SortOrder) (os : List SortOrder) (a b : SortKey)
    (as bs : List SortKey) :
    compareAll (o :: os) (a :: as) (b :: bs) = (orderBy o a b).then (compareAll os as bs) :=
  rfl

theorem compareAll_swap (orders : List SortOrder) (as bs : List SortKey) :
    compareAll orders as bs = (compareAll orders bs as).swap := by
  induction orders generalizing as bs with
  | nil => rfl
  | cons o os ih =>
    cases as with
    | nil => cases bs <;> rfl
    | cons a as =>
      cases bs with
      | nil => rfl
      | cons b bs =>
        rw [compareAll_cons, compareAll_cons, Ordering.swap_then, ← ih as bs,
          ← (preorderOn_orderBy o fun _ => True).swap]

/-- Keys for every sort order are compared by a preorder. -/
theorem preorderOn_compareAll :
    ∀ orders : List SortOrder, PreorderOn (compareAll orders) fun as => as.length = orders.length
  | [] => ⟨fun as bs => compareAll_swap [] bs as, fun _ _ _ _ _ => by simp [compareAll]⟩
  | o :: os => by
    refine ⟨fun as bs => compareAll_swap (o :: os) bs as, fun {as bs cs} ha hb hc hab hbc => ?_⟩
    obtain ⟨a, as, rfl⟩ := List.exists_cons_of_length_eq_add_one ha
    obtain ⟨b, bs, rfl⟩ := List.exists_cons_of_length_eq_add_one hb
    obtain ⟨c, cs, rfl⟩ := List.exists_cons_of_length_eq_add_one hc
    have hrest := (preorderOn_compareAll os).on fun keys : List SortKey => keys.tail
    have hfirst := (preorderOn_orderBy o fun _ => True).on fun keys : List SortKey =>
      keys.headD .blank
    have hboth := (hfirst.mono fun _ _ => trivial).andThen hrest
    exact hboth.trans (a := a :: as) (b := b :: bs) (c := c :: cs)
      (Nat.succ.inj ha) (Nat.succ.inj hb) (Nat.succ.inj hc) hab hbc

/-- Entries with a key for every sort order are weakly ordered by their keys. -/
theorem weakOrderOn_compareAll {α : Type} (orders : List SortOrder) :
    Sort.WeakOrderOn (fun a b : α × List SortKey => compareAll orders a.2 b.2 == .lt)
      fun a => a.2.length = orders.length :=
  ((preorderOn_compareAll orders).on Prod.snd).weakOrderOn

end SortKey

end ContactGraph
