import ContactGraph.Sort.Stable

/-!
# Stable sorts and merges

`Sort.stable` keeps the elements (`stable_perm`) and puts them in order (`pairwise_stable`), as long
as `less` is a weak order on them (`WeakOrderOn`). A sorted list behind another is merged into it,
the left one first on a tie (`stable_append`), and the first `n` elements of a merge come from the
first `n` of the two lists (`take_merge`). Together : of sorted lists only the first `n` elements of
each matter for the first `n` of all (`take_stable_flatten`). Elements of which neither is less are
`tied`; sorting keeps their order (`filter_tied_stable`), and there is one sorted list that does
(`eq_of_filter_tied`), so two lists can be sorted apart and then merged (`stable_append_stable`),
and merge sort gives the same list (`stable_eq_mergeSort`).
-/

namespace ContactGraph.Sort

variable {α : Type} {less : α → α → Bool} {P : α → Prop} {x y : α} {xs ys down : List α}

/-- Among the elements with `P`, of two at most one is less, and not being less goes on. -/
structure WeakOrderOn (less : α → α → Bool) (P : α → Prop) : Prop where
  /-- Of two elements at most one is less than the other. -/
  asymm : ∀ {a b}, P a → P b → less a b = true → less b a = false
  /-- An element not less than one that is not less than a third is not less than that. -/
  trans : ∀ {a b c}, P a → P b → P c → less b a = false → less c b = false → less c a = false

/-- A weak order turned round is one. -/
theorem WeakOrderOn.flip (h : WeakOrderOn less P) : WeakOrderOn (fun a b => less b a) P where
  asymm ha hb := h.asymm hb ha
  trans ha hb hc hab hbc := h.trans hc hb ha hbc hab

/-- Having a smaller key is a weak order. -/
theorem weakOrderOn_key (key : α → Nat) (P : α → Prop) :
    WeakOrderOn (fun a b => decide (key a < key b)) P := by
  constructor
  · intro a b _ _ h
    rw [decide_eq_true_eq] at h
    exact decide_eq_false (Nat.not_lt.mpr (Nat.le_of_lt h))
  · intro a b c _ _ _ hab hbc
    rw [decide_eq_false_iff_not, Nat.not_lt] at hab hbc ⊢
    exact Nat.le_trans hab hbc

/-! ## Insertion -/

/-- The new element stands behind the elements it is less than. -/
theorem insertDown_eq (less : α → α → Bool) (x : α) (ys : List α) :
    insertDown less x ys = ys.takeWhile (less x) ++ x :: ys.dropWhile (less x) := by
  induction ys with
  | nil => rfl
  | cons y ys ih =>
    rw [insertDown]
    split
    · rename_i h
      rw [ih, List.takeWhile_cons_of_pos h, List.dropWhile_cons_of_pos h, List.cons_append]
    · rename_i h
      rw [List.takeWhile_cons_of_neg h, List.dropWhile_cons_of_neg h, List.nil_append]

theorem insertDown_perm : (insertDown less x ys).Perm (x :: ys) := by
  rw [insertDown_eq]
  refine List.perm_middle.trans (.cons x ?_)
  rw [List.takeWhile_append_dropWhile]

theorem sortDown_perm : (sortDown less down xs).Perm (down ++ xs) := by
  induction xs generalizing down with
  | nil => simp [sortDown]
  | cons x xs ih =>
    rw [sortDown]
    refine ih.trans ((insertDown_perm.append_right xs).trans ?_)
    exact List.perm_middle.symm

theorem sortDown_append : sortDown less down (xs ++ ys) =
    sortDown less (sortDown less down xs) ys := by
  induction xs generalizing down with
  | nil => rfl
  | cons x xs ih => exact ih

/-- Sorting keeps the elements. -/
theorem stable_perm : (stable less xs).Perm xs :=
  (List.reverse_perm _).trans sortDown_perm

section

variable {β : Type} (f : β → α) (less : α → α → Bool)

theorem insertDown_map (x : β) (ys : List β) : insertDown less (f x) (ys.map f) =
    (insertDown (fun a b => less (f a) (f b)) x ys).map f := by
  induction ys with
  | nil => rfl
  | cons y ys ih =>
    rw [List.map_cons, insertDown, insertDown]
    split
    · rw [ih, List.map_cons]
    · rfl

theorem sortDown_map (down xs : List β) : sortDown less (down.map f) (xs.map f) =
    (sortDown (fun a b => less (f a) (f b)) down xs).map f := by
  induction xs generalizing down with
  | nil => rfl
  | cons x xs ih => rw [List.map_cons, sortDown, sortDown, insertDown_map, ih]

/-- Parts of things are sorted as the things are by their parts. -/
theorem stable_map (xs : List β) :
    stable less (xs.map f) = (stable (fun a b => less (f a) (f b)) xs).map f := by
  have hsorted := sortDown_map f less [] xs
  rw [List.map_nil] at hsorted
  rw [stable, stable, hsorted, List.map_reverse]

end

/-- In a list in decreasing order, an element is not less than any from the first one on that it is
not less than. -/
theorem not_less_of_mem_dropWhile (h : WeakOrderOn less P) (hx : P x) (hys : ∀ y ∈ ys, P y)
    (hdown : ys.Pairwise fun a b => less a b = false) :
    ∀ z ∈ ys.dropWhile (less x), less x z = false := by
  induction ys with
  | nil => simp
  | cons y ys ih =>
    obtain ⟨hy, hrest⟩ := List.pairwise_cons.mp hdown
    intro z hz
    by_cases hxy : less x y
    · rw [List.dropWhile_cons_of_pos hxy] at hz
      exact ih (fun w hw => hys w (List.mem_cons_of_mem _ hw)) hrest z hz
    · rw [List.dropWhile_cons_of_neg hxy] at hz
      have hxy' : less x y = false := Bool.eq_false_iff.mpr hxy
      rcases List.mem_cons.mp hz with rfl | hz
      · exact hxy'
      · exact h.trans (hys z (List.mem_cons_of_mem _ hz)) (hys y List.mem_cons_self) hx
          (hy z hz) hxy'

theorem pairwise_insertDown (h : WeakOrderOn less P) (hx : P x) (hys : ∀ y ∈ ys, P y)
    (hdown : ys.Pairwise fun a b => less a b = false) :
    (insertDown less x ys).Pairwise fun a b => less a b = false := by
  rw [insertDown_eq]
  have hsplit := hdown
  rw [← List.takeWhile_append_dropWhile (p := less x) (l := ys)] at hsplit
  obtain ⟨htake, hdrop, hcross⟩ := List.pairwise_append.mp hsplit
  refine List.pairwise_append.mpr ⟨htake,
    List.pairwise_cons.mpr ⟨not_less_of_mem_dropWhile h hx hys hdown, hdrop⟩, fun a ha b hb => ?_⟩
  rcases List.mem_cons.mp hb with rfl | hb
  · have hless := List.all_eq_true.mp List.all_takeWhile a ha
    exact h.asymm hx (hys a (List.takeWhile_subset _ ha)) hless
  · exact hcross a ha b hb

theorem pairwise_sortDown (h : WeakOrderOn less P) (hxs : ∀ x ∈ xs, P x) (hys : ∀ y ∈ down, P y)
    (hdown : down.Pairwise fun a b => less a b = false) :
    (sortDown less down xs).Pairwise fun a b => less a b = false := by
  induction xs generalizing down with
  | nil => exact hdown
  | cons x xs ih =>
    have hx := hxs x List.mem_cons_self
    refine ih (fun y hy => hxs y (List.mem_cons_of_mem _ hy)) (fun y hy => ?_)
      (pairwise_insertDown h hx hys hdown)
    rcases List.mem_cons.mp (insertDown_perm.mem_iff.mp hy) with rfl | hy
    · exact hx
    · exact hys y hy

/-- In a sorted list no element is less than one in front of it. -/
theorem pairwise_stable (h : WeakOrderOn less P) (hxs : ∀ x ∈ xs, P x) :
    (stable less xs).Pairwise fun a b => less b a = false :=
  List.pairwise_reverse.mpr (pairwise_sortDown h hxs nofun .nil)

/-! ## Merging -/

/-- Elements that stand in front of all of the other list stay in front. -/
theorem append_merge {le : α → α → Bool} {front : List α}
    (h : ∀ a ∈ front, ∀ b ∈ ys, le a b = true) :
    (front ++ xs).merge ys le = front ++ xs.merge ys le := by
  induction front with
  | nil => rfl
  | cons a front ih =>
    cases ys with
    | nil => simp
    | cons y ys =>
      rw [List.cons_append, List.cons_merge_cons,
        if_pos (h a List.mem_cons_self y List.mem_cons_self),
        ih fun b hb => h b (List.mem_cons_of_mem _ hb), List.cons_append]

/-- An element that stands in front of all of the other list goes first. -/
theorem merge_cons {le : α → α → Bool} (h : ∀ a ∈ xs, le a y = false) :
    xs.merge (y :: ys) le = y :: xs.merge ys le := by
  cases xs with
  | nil => simp
  | cons x xs => simp [h x List.mem_cons_self]

/-- Inserting the first element of a sorted list is the first step of a merge. -/
theorem merge_insertDown (h : WeakOrderOn less P) (hy : P y) (hys : ∀ z ∈ ys, P z)
    (hdown : ∀ z ∈ down, P z) (hsorted : (y :: ys).Pairwise fun a b => less b a = false)
    (hdec : down.Pairwise fun a b => less a b = false) :
    down.reverse.merge (y :: ys) (fun a b => !less b a) =
      (insertDown less y down).reverse.merge ys fun a b => !less b a := by
  have hdrop := not_less_of_mem_dropWhile h hy hdown hdec
  have hafter := (List.pairwise_cons.mp hsorted).1
  have hdown' : ∀ {z}, z ∈ down.dropWhile (less y) → P z := fun hz =>
    hdown _ (List.dropWhile_subset _ hz)
  -- what comes behind `y` in `down` stands in front of `y` and of all that follows it
  have hfront : ∀ a ∈ (down.dropWhile (less y)).reverse, ∀ b ∈ y :: ys, (!less b a) = true := by
    intro a ha b hb
    have ha := List.mem_reverse.mp ha
    rcases List.mem_cons.mp hb with rfl | hb
    · rw [hdrop a ha, Bool.not_false]
    · rw [h.trans (hdown' ha) hy (hys b hb) (hdrop a ha) (hafter b hb), Bool.not_false]
  have hback : ∀ a ∈ (down.takeWhile (less y)).reverse, (!less y a) = false := by
    intro a ha
    rw [List.all_eq_true.mp List.all_takeWhile a (List.mem_reverse.mp ha), Bool.not_true]
  have hself : ∀ a ∈ [y], ∀ b ∈ ys, (!less b a) = true := by
    intro a ha b hb
    rw [List.mem_singleton.mp ha, hafter b hb, Bool.not_false]
  calc down.reverse.merge (y :: ys) (fun a b => !less b a)
      = ((down.dropWhile (less y)).reverse ++ (down.takeWhile (less y)).reverse).merge (y :: ys)
          fun a b => !less b a := by
        rw [← List.reverse_append, List.takeWhile_append_dropWhile]
    _ = (down.dropWhile (less y)).reverse ++
          y :: (down.takeWhile (less y)).reverse.merge ys fun a b => !less b a := by
        rw [append_merge hfront, merge_cons hback]
    _ = (down.dropWhile (less y)).reverse ++
          ([y] ++ (down.takeWhile (less y)).reverse).merge ys fun a b => !less b a := by
        rw [append_merge hself, List.singleton_append]
    _ = (insertDown less y down).reverse.merge ys fun a b => !less b a := by
        rw [← append_merge fun a ha b hb => hfront a ha b (List.mem_cons_of_mem _ hb),
          insertDown_eq, List.reverse_append, List.reverse_cons, List.append_assoc]

theorem reverse_sortDown_eq_merge (h : WeakOrderOn less P) (hys : ∀ y ∈ ys, P y)
    (hdown : ∀ z ∈ down, P z) (hsorted : ys.Pairwise fun a b => less b a = false)
    (hdec : down.Pairwise fun a b => less a b = false) :
    (sortDown less down ys).reverse = down.reverse.merge ys fun a b => !less b a := by
  induction ys generalizing down with
  | nil => simp [sortDown]
  | cons y ys ih =>
    have hy := hys y List.mem_cons_self
    have hys' : ∀ z ∈ ys, P z := fun z hz => hys z (List.mem_cons_of_mem _ hz)
    have hmem : ∀ z ∈ insertDown less y down, P z := by
      intro z hz
      rcases List.mem_cons.mp (insertDown_perm.mem_iff.mp hz) with rfl | hz
      · exact hy
      · exact hdown z hz
    rw [merge_insertDown h hy hys' hdown hsorted hdec, sortDown]
    exact ih hys' hmem (List.pairwise_cons.mp hsorted).2 (pairwise_insertDown h hy hdown hdec)

/-- A sorted list behind another is merged into it, the left one first on a tie. -/
theorem stable_append (h : WeakOrderOn less P) (hxs : ∀ x ∈ xs, P x) (hys : ∀ y ∈ ys, P y)
    (hsorted : ys.Pairwise fun a b => less b a = false) :
    stable less (xs ++ ys) = (stable less xs).merge ys fun a b => !less b a := by
  rw [stable, sortDown_append, stable]
  refine reverse_sortDown_eq_merge h hys (fun z hz => ?_) hsorted
    (pairwise_sortDown h hxs nofun .nil)
  exact hxs z (sortDown_perm.mem_iff.mp hz)

/-- Sorted lists are merged one after the other. -/
theorem stable_append_flatten (h : WeakOrderOn less P) (hxs : ∀ x ∈ xs, P x) {lists : List (List α)}
    (hlists : ∀ l ∈ lists, ∀ x ∈ l, P x)
    (hsorted : ∀ l ∈ lists, l.Pairwise fun a b => less b a = false) :
    stable less (xs ++ lists.flatten) =
      lists.foldl (fun acc l => acc.merge l fun a b => !less b a) (stable less xs) := by
  induction lists generalizing xs with
  | nil => simp
  | cons l lists ih =>
    rw [List.forall_mem_cons] at hlists hsorted
    have hfront : ∀ x ∈ xs ++ l, P x := fun x hx =>
      (List.mem_append.mp hx).elim (hxs x) (hlists.1 x)
    rw [List.flatten_cons, ← List.append_assoc, ih hfront hlists.2 hsorted.2,
      stable_append h hxs hlists.1 hsorted.1, List.foldl_cons]

/-! ## Ties -/

/-- Whether neither of two elements is less than the other. -/
def tied (less : α → α → Bool) (x y : α) : Bool :=
  !less x y && !less y x

theorem tied_iff : tied less x y = true ↔ less x y = false ∧ less y x = false := by
  simp [tied]

theorem tied_self (h : WeakOrderOn less P) (hx : P x) : tied less x x = true := by
  have hxx : less x x = false := by
    cases hless : less x x with
    | false => rfl
    | true => exact hless ▸ h.asymm hx hx hless
  exact tied_iff.mpr ⟨hxx, hxx⟩

/-- A new element stands in front of those it is tied with. -/
theorem filter_tied_insertDown {z : α} (h : WeakOrderOn less P) (hz : P z) (hx : P x)
    (hys : ∀ y ∈ ys, P y) : (insertDown less x ys).filter (tied less z) =
      [x].filter (tied less z) ++ ys.filter (tied less z) := by
  have hsplit : ys.filter (tied less z) = (ys.takeWhile (less x)).filter (tied less z) ++
      (ys.dropWhile (less x)).filter (tied less z) := by
    rw [← List.filter_append, List.takeWhile_append_dropWhile]
  rw [insertDown_eq, List.filter_append, List.filter_cons]
  split
  · rename_i hzx
    -- `x` is tied with `z`, so what it is less than is not
    have hnil : (ys.takeWhile (less x)).filter (tied less z) = [] := by
      rw [List.filter_eq_nil_iff]
      intro y hy hzy
      have hless := List.all_eq_true.mp List.all_takeWhile y hy
      have hxy := h.trans (hys y (List.takeWhile_subset _ hy)) hz hx (tied_iff.mp hzy).1
        (tied_iff.mp hzx).2
      rw [hless] at hxy
      cases hxy
    rw [hsplit, hnil, List.filter_cons_of_pos hzx]
    rfl
  · rename_i hzx
    rw [← hsplit, List.filter_cons_of_neg hzx]
    rfl

theorem filter_tied_sortDown {z : α} (h : WeakOrderOn less P) (hz : P z) (hxs : ∀ x ∈ xs, P x)
    (hdown : ∀ y ∈ down, P y) : (sortDown less down xs).filter (tied less z) =
      (xs.filter (tied less z)).reverse ++ down.filter (tied less z) := by
  induction xs generalizing down with
  | nil => rfl
  | cons x xs ih =>
    rw [List.forall_mem_cons] at hxs
    have hmem : ∀ y ∈ insertDown less x down, P y := by
      intro y hy
      rcases List.mem_cons.mp (insertDown_perm.mem_iff.mp hy) with rfl | hy
      · exact hxs.1
      · exact hdown y hy
    have hcons : (x :: xs).filter (tied less z) = [x].filter (tied less z) ++
        xs.filter (tied less z) := List.filter_append [x] xs
    have hone : ([x].filter (tied less z)).reverse = [x].filter (tied less z) := by
      rw [List.filter_cons]
      split <;> rfl
    rw [sortDown, ih hxs.2 hmem, filter_tied_insertDown h hz hxs.1 hdown, hcons,
      List.reverse_append, hone, List.append_assoc]

/-- Sorting keeps the order of tied elements. -/
theorem filter_tied_stable {z : α} (h : WeakOrderOn less P) (hz : P z) (hxs : ∀ x ∈ xs, P x) :
    (stable less xs).filter (tied less z) = xs.filter (tied less z) := by
  have hnil : ∀ y ∈ ([] : List α), P y := nofun
  rw [stable, List.filter_reverse, filter_tied_sortDown h hz hxs hnil, List.filter_nil,
    List.append_nil, List.reverse_reverse]

/-- Sorting keeps the order of the elements that are tied with one of them. -/
theorem filter_stable (h : WeakOrderOn less P) (hxs : ∀ x ∈ xs, P x) {p : α → Bool}
    (hp : ∀ z, p z = true → ∀ y, p y = tied less z y) :
    (stable less xs).filter p = xs.filter p := by
  by_cases hany : ∃ z ∈ xs, p z = true
  · obtain ⟨z, hz, hpz⟩ := hany
    obtain rfl : p = tied less z := funext (hp z hpz)
    exact filter_tied_stable h (hxs z hz) hxs
  · have hnone : ∀ y ∈ xs, ¬ p y = true := fun y hy hpy => hany ⟨y, hy, hpy⟩
    rw [List.filter_eq_nil_iff.mpr hnone,
      List.filter_eq_nil_iff.mpr fun y hy => hnone y (stable_perm.mem_iff.mp hy)]

/-- With the same tied elements, lists have the same elements. -/
theorem mem_of_filter_tied (h : WeakOrderOn less P) (hx : P x)
    (htied : ∀ z, P z → xs.filter (tied less z) = ys.filter (tied less z)) (hmem : x ∈ xs) :
    x ∈ ys := by
  have hfilter : x ∈ xs.filter (tied less x) := List.mem_filter.mpr ⟨hmem, tied_self h hx⟩
  rw [htied x hx] at hfilter
  exact (List.mem_filter.mp hfilter).1

/-- Sorted lists in which tied elements stand in the same order begin with the same element. -/
theorem head_eq_of_filter_tied (h : WeakOrderOn less P) (hx : P x) (hy : P y)
    (hafter : ∀ z ∈ xs, less z x = false) (hafter' : ∀ z ∈ ys, less z y = false)
    (htied : ∀ z, P z → (x :: xs).filter (tied less z) = (y :: ys).filter (tied less z)) :
    x = y := by
  by_cases htie : tied less x y
  · have hheads := htied x hx
    rw [List.filter_cons_of_pos (tied_self h hx), List.filter_cons_of_pos htie] at hheads
    exact (List.cons.inj hheads).1
  · -- each of the two stands in the other list behind its head, so neither is less
    have hmem := mem_of_filter_tied h hx htied List.mem_cons_self
    have hmem' := mem_of_filter_tied h hy (fun z hz => (htied z hz).symm) List.mem_cons_self
    rcases List.mem_cons.mp hmem with hxy | hxys
    · exact hxy
    · rcases List.mem_cons.mp hmem' with hyx | hyxs
      · exact hyx.symm
      · exact absurd (tied_iff.mpr ⟨hafter' x hxys, hafter y hyxs⟩) htie

/-- Sorted lists in which tied elements stand in the same order are the same. -/
theorem eq_of_filter_tied (h : WeakOrderOn less P) (hxs : ∀ x ∈ xs, P x) (hys : ∀ y ∈ ys, P y)
    (hsorted : xs.Pairwise fun a b => less b a = false)
    (hsorted' : ys.Pairwise fun a b => less b a = false)
    (htied : ∀ z, P z → xs.filter (tied less z) = ys.filter (tied less z)) : xs = ys := by
  have htied' := fun z hz => (htied z hz).symm
  induction xs generalizing ys with
  | nil =>
    cases ys with
    | nil => rfl
    | cons y ys =>
      have hmem := mem_of_filter_tied h (hys y List.mem_cons_self) htied' List.mem_cons_self
      exact absurd hmem List.not_mem_nil
  | cons x xs ih =>
    rw [List.forall_mem_cons] at hxs
    cases ys with
    | nil =>
      have hmem := mem_of_filter_tied h hxs.1 htied List.mem_cons_self
      exact absurd hmem List.not_mem_nil
    | cons y ys =>
      rw [List.forall_mem_cons] at hys
      rw [List.pairwise_cons] at hsorted hsorted'
      obtain rfl := head_eq_of_filter_tied h hxs.1 hys.1 hsorted.1 hsorted'.1 htied
      have htails : ∀ z, P z → xs.filter (tied less z) = ys.filter (tied less z) := by
        intro z hz
        have hlists := htied z hz
        rw [List.filter_cons, List.filter_cons] at hlists
        split at hlists
        · exact (List.cons.inj hlists).2
        · exact hlists
      rw [ih hxs.2 hys.2 hsorted.2 hsorted'.2 htails fun z hz => (htails z hz).symm]

/-- A sorted list stays as it is. -/
theorem stable_eq_self (h : WeakOrderOn less P) (hxs : ∀ x ∈ xs, P x)
    (hsorted : xs.Pairwise fun a b => less b a = false) : stable less xs = xs :=
  eq_of_filter_tied h (fun x hx => hxs x (stable_perm.mem_iff.mp hx)) hxs (pairwise_stable h hxs)
    hsorted fun _ hz => filter_tied_stable h hz hxs

/-- Two lists sorted apart and merged are the two lists sorted as one, the left one first on a tie.
-/
theorem stable_append_stable (h : WeakOrderOn less P) (hxs : ∀ x ∈ xs, P x) (hys : ∀ y ∈ ys, P y) :
    (stable less xs).merge (stable less ys) (fun a b => !less b a) = stable less (xs ++ ys) := by
  have hmem : ∀ z ∈ xs ++ ys, P z := fun z hz => (List.mem_append.mp hz).elim (hxs z) (hys z)
  have hys' : ∀ y ∈ stable less ys, P y := fun y hy => hys y (stable_perm.mem_iff.mp hy)
  have hmem' : ∀ z ∈ xs ++ stable less ys, P z := fun z hz =>
    (List.mem_append.mp hz).elim (hxs z) (hys' z)
  rw [← stable_append h hxs hys' (pairwise_stable h hys)]
  refine eq_of_filter_tied h (fun z hz => hmem' z (stable_perm.mem_iff.mp hz))
    (fun z hz => hmem z (stable_perm.mem_iff.mp hz)) (pairwise_stable h hmem')
    (pairwise_stable h hmem) fun z hz => ?_
  rw [filter_tied_stable h hz hmem', filter_tied_stable h hz hmem, List.filter_append,
    List.filter_append, filter_tied_stable h hz hys]

/-! ## Merge sort -/

/-- Sorting gives the same list as the merge sort of the standard library, or any other stable sort.
-/
theorem stable_eq_mergeSort (h : WeakOrderOn less fun _ => True) (xs : List α) :
    stable less xs = xs.mergeSort fun a b => !less b a := by
  have htrans : ∀ a b c, (!less b a) = true → (!less c b) = true → (!less c a) = true := by
    simp only [Bool.not_eq_true']
    exact fun _ _ _ => h.trans trivial trivial trivial
  have htotal : ∀ a b, (!less b a || !less a b) = true := by
    intro a b
    cases hless : less b a with
    | false => rfl
    | true => rw [h.asymm trivial trivial hless]; rfl
  have hsorted : (xs.mergeSort fun a b => !less b a).Pairwise fun a b => less b a = false :=
    (List.pairwise_mergeSort htrans htotal xs).imp fun hab => by simpa using hab
  refine eq_of_filter_tied h (fun _ _ => trivial) (fun _ _ => trivial)
    (pairwise_stable h fun _ _ => trivial) hsorted fun z _ => ?_
  rw [filter_tied_stable h trivial fun _ _ => trivial]
  -- tied elements stand in order as they are, and merge sort keeps sublists in order
  have htied : (xs.filter (tied less z)).Pairwise fun a b => (!less b a) = true := by
    refine List.pairwise_of_forall_mem_list fun a ha b hb => ?_
    have ha := tied_iff.mp (List.mem_filter.mp ha).2
    have hb := tied_iff.mp (List.mem_filter.mp hb).2
    rw [h.trans trivial trivial trivial ha.1 hb.2, Bool.not_false]
  have hkept :=
    (List.sublist_mergeSort htrans htotal htied List.filter_sublist).filter (tied less z)
  rw [List.filter_filter] at hkept
  simp only [Bool.and_self] at hkept
  exact hkept.eq_of_length ((List.mergeSort_perm xs _).filter (tied less z)).length_eq.symm

/-! ## First elements -/

/-- Lists that agree up to one more element agree. -/
theorem take_eq_of_succ {n : Nat} {l l' : List α} (h : l.take (n + 1) = l'.take (n + 1)) :
    l.take n = l'.take n := by
  have := congrArg (List.take n) h
  rwa [List.take_take, List.take_take, Nat.min_eq_left (Nat.le_succ n)] at this

/-- The first elements of a merge come from the first elements of the two lists. -/
theorem take_merge (le : α → α → Bool) {n : Nat} {xs' ys' : List α} (hxs : xs.take n = xs'.take n)
    (hys : ys.take n = ys'.take n) : (xs.merge ys le).take n = (xs'.merge ys' le).take n := by
  induction n generalizing xs ys xs' ys' with
  | zero => rfl
  | succ n ih =>
    cases xs with
    | nil =>
      obtain rfl : xs' = [] := by simpa using hxs.symm
      simpa using hys
    | cons x xs =>
      cases ys with
      | nil =>
        obtain rfl : ys' = [] := by simpa using hys.symm
        simpa using hxs
      | cons y ys =>
        have hxs₀ := take_eq_of_succ hxs
        have hys₀ := take_eq_of_succ hys
        rw [List.take_succ_cons] at hxs hys
        obtain ⟨z, xs', rfl⟩ : ∃ z zs, xs' = z :: zs := by
          cases xs' with
          | nil => simp at hxs
          | cons z zs => exact ⟨z, zs, rfl⟩
        obtain ⟨w, ys', rfl⟩ : ∃ w ws, ys' = w :: ws := by
          cases ys' with
          | nil => simp at hys
          | cons w ws => exact ⟨w, ws, rfl⟩
        rw [List.take_succ_cons, List.cons.injEq] at hxs hys
        obtain ⟨rfl, hxs⟩ := hxs
        obtain ⟨rfl, hys⟩ := hys
        rw [List.cons_merge_cons, List.cons_merge_cons]
        split
        · rw [List.take_succ_cons, List.take_succ_cons, ih hxs hys₀]
        · rw [List.take_succ_cons, List.take_succ_cons, ih hxs₀ hys]

theorem take_foldl_merge (le : α → α → Bool) (n : Nat) (lists : List (List α)) {acc acc' : List α}
    (hacc : acc.take n = acc'.take n) :
    ((lists.map (List.take n)).foldl (fun acc l => acc.merge l le) acc).take n =
      (lists.foldl (fun acc l => acc.merge l le) acc').take n := by
  induction lists generalizing acc acc' with
  | nil => exact hacc
  | cons l lists ih =>
    refine ih (take_merge le hacc ?_)
    rw [List.take_take, Nat.min_self]

/-- Of sorted lists, only the first elements of each matter for the first of all. -/
theorem take_stable_flatten (h : WeakOrderOn less P) {lists : List (List α)}
    (hlists : ∀ l ∈ lists, ∀ x ∈ l, P x)
    (hsorted : ∀ l ∈ lists, l.Pairwise fun a b => less b a = false) (n : Nat) :
    (stable less (lists.map (List.take n)).flatten).take n =
      (stable less lists.flatten).take n := by
  have hlists' : ∀ l ∈ lists.map (List.take n), ∀ x ∈ l, P x := by
    rw [List.forall_mem_map]
    exact fun l hl x hx => hlists l hl x (List.mem_of_mem_take hx)
  have hsorted' : ∀ l ∈ lists.map (List.take n), l.Pairwise fun a b => less b a = false := by
    rw [List.forall_mem_map]
    exact fun l hl => (hsorted l hl).sublist (List.take_sublist n l)
  have hnil : ∀ x ∈ ([] : List α), P x := nofun
  have hfull := stable_append_flatten h hnil hlists hsorted
  have hfirst := stable_append_flatten h hnil hlists' hsorted'
  rw [List.nil_append] at hfull hfirst
  rw [hfull, hfirst]
  exact take_foldl_merge _ n lists rfl

end ContactGraph.Sort
