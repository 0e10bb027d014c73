import ContactGraph.Proofs.Sort.Stable
import ContactGraph.Sort.Order

/-!
# Preorders

A comparison is a preorder on some elements (`PreorderOn`) when turning two elements round turns it
round, and when among these elements it goes on from one to the next. Comparing parts of things, in
either direction and one comparison after the other, is a preorder again when the comparisons are.
Elements in a preorder can be sorted (`PreorderOn.weakOrderOn`), and what a stable sort gives is in
order, with tied elements as they stood (`Sort.isSorted_stableBy`).
-/

namespace ContactGraph

open Std

/-- Turning two elements round turns `cmp` round, and among the elements with `P` it goes on from
one to the next. -/
structure PreorderOn {α : Type} (cmp : α → α → Ordering) (P : α → Prop) : Prop where
  /-- Turning two elements round turns the order round. -/
  swap : ∀ a b, cmp b a = (cmp a b).swap
  /-- Going on to an element that is not less, and again, leads to one that is not less. -/
  trans : ∀ {a b c}, P a → P b → P c → (cmp a b).isLE → (cmp b c).isLE → (cmp a c).isLE

namespace PreorderOn

variable {α β : Type} {cmp cmp' : α → α → Ordering} {P Q : α → Prop} {a b c : α}

theorem of_transCmp (cmp : α → α → Ordering) [TransCmp cmp] : PreorderOn cmp P where
  swap _ _ := OrientedCmp.eq_swap
  trans _ _ _ := TransCmp.isLE_trans

theorem mono (h : PreorderOn cmp P) (hQ : ∀ a, Q a → P a) : PreorderOn cmp Q where
  swap := h.swap
  trans ha hb hc := h.trans (hQ _ ha) (hQ _ hb) (hQ _ hc)

/-- A preorder of one part of things is a preorder of the things. -/
theorem on (h : PreorderOn cmp P) (f : β → α) :
    PreorderOn (fun x y => cmp (f x) (f y)) fun x => P (f x) where
  swap _ _ := h.swap _ _
  trans ha hb hc := h.trans ha hb hc

theorem lt_of_lt_of_isLE (h : PreorderOn cmp P) (ha : P a) (hb : P b) (hc : P c)
    (hab : cmp a b = .lt) (hbc : (cmp b c).isLE) : cmp a c = .lt := by
  have hba : ¬ (cmp b a).isLE := by simp [h.swap a b, hab]
  have hca : ¬ (cmp c a).isLE := fun hca => hba (h.trans hb hc ha hbc hca)
  rw [h.swap a c] at hca
  cases hcmp : cmp a c <;> simp [hcmp] at hca ⊢

theorem lt_of_isLE_of_lt (h : PreorderOn cmp P) (ha : P a) (hb : P b) (hc : P c)
    (hab : (cmp a b).isLE) (hbc : cmp b c = .lt) : cmp a c = .lt := by
  have hcb : ¬ (cmp c b).isLE := by simp [h.swap b c, hbc]
  have hca : ¬ (cmp c a).isLE := fun hca => hcb (h.trans hc ha hb hca hab)
  rw [h.swap a c] at hca
  cases hcmp : cmp a c <;> simp [hcmp] at hca ⊢

/-- A preorder in either direction is a preorder. -/
theorem apply (h : PreorderOn cmp P) (d : SortDirection) :
    PreorderOn (fun a b => d.apply (cmp a b)) P := by
  cases d with
  | ascending => exact h
  | descending =>
    refine ⟨fun a b => congrArg Ordering.swap (h.swap a b), fun {a b c} ha hb hc hab hbc => ?_⟩
    rw [SortDirection.apply, ← h.swap] at hab hbc ⊢
    exact h.trans hc hb ha hbc hab

/-- A preorder whose ties another one decides. -/
theorem andThen (h : PreorderOn cmp P) (h' : PreorderOn cmp' P) :
    PreorderOn (fun a b => (cmp a b).then (cmp' a b)) P where
  swap a b := by rw [h.swap, h'.swap, Ordering.swap_then]
  trans {a b c} ha hb hc hab hbc := by
    rw [Ordering.isLE_then_iff_and] at hab hbc ⊢
    refine ⟨h.trans ha hb hc hab.1 hbc.1, ?_⟩
    rcases hab.2 with hlt | htail
    · exact .inl (h.lt_of_lt_of_isLE ha hb hc hlt hbc.1)
    · rcases hbc.2 with hlt | htail'
      · exact .inl (h.lt_of_isLE_of_lt ha hb hc hab.1 hlt)
      · exact .inr (h'.trans ha hb hc htail htail')

/-- Of two elements the second is not less when the first is less or equal. -/
theorem isLE_iff (h : PreorderOn cmp P) : (cmp b a == .lt) = false ↔ (cmp a b).isLE := by
  rw [h.swap a b]
  cases cmp a b <;> decide

/-- Elements in a preorder are weakly ordered. -/
theorem weakOrderOn (h : PreorderOn cmp P) : Sort.WeakOrderOn (fun a b => cmp a b == .lt) P where
  asymm {a b} _ _ hab := by
    rw [h.swap a b, beq_iff_eq.mp hab]
    rfl
  trans {a b c} ha hb hc hba hcb := by
    rw [h.isLE_iff] at hba hcb ⊢
    exact h.trans ha hb hc hba hcb

end PreorderOn

end ContactGraph

namespace ContactGraph.Sort

variable {α : Type} {order order' : α → α → Ordering} {P : α → Prop} {xs sorted : List α}

/-- The elements of a list in order, and those that are tied as they stood. -/
structure IsSorted (order : α → α → Ordering) (xs sorted : List α) : Prop where
  /-- The elements are the same. -/
  perm : sorted.Perm xs
  /-- None comes behind a greater one. -/
  pairwise : sorted.Pairwise fun a b => order a b ≠ .gt
  /-- Elements that are tied with one of them keep their order. -/
  filter_eq : ∀ a ∈ xs, sorted.filter (order a · == .eq) = xs.filter (order a · == .eq)

/-- Sorting stably by a preorder. -/
theorem isSorted_stableBy (h : PreorderOn order P) (hxs : ∀ x ∈ xs, P x) :
    IsSorted order xs (stableBy order xs) where
  perm := stable_perm
  pairwise := by
    refine (pairwise_stable h.weakOrderOn hxs).imp fun {a b} hab => ?_
    rwa [h.isLE_iff, Ordering.isLE_iff_ne_gt] at hab
  filter_eq a ha := by
    have htied : (order a · == .eq) = tied (fun a b => order a b == .lt) a := by
      funext b
      rw [tied, h.swap a b]
      cases order a b <;> rfl
    rw [htied]
    exact filter_tied_stable h.weakOrderOn (hxs a ha) hxs

/-- Orders that agree on the elements sort them the same way. -/
theorem IsSorted.congr (h : IsSorted order xs sorted)
    (hsame : ∀ a ∈ xs, ∀ b ∈ xs, order a b = order' a b) : IsSorted order' xs sorted where
  perm := h.perm
  pairwise := by
    refine h.pairwise.imp_of_mem fun {a b} ha hb hab => ?_
    rwa [← hsame a (h.perm.mem_iff.mp ha) b (h.perm.mem_iff.mp hb)]
  filter_eq a ha := by
    have hfilter : ∀ ys : List α, (∀ b ∈ ys, b ∈ xs) →
        ys.filter (order' a · == .eq) = ys.filter (order a · == .eq) := fun ys hys =>
      List.filter_congr fun b hb => by rw [hsame a ha b (hys b hb)]
    rw [hfilter sorted fun b hb => h.perm.mem_iff.mp hb, hfilter xs fun b hb => hb,
      h.filter_eq a ha]

end ContactGraph.Sort
