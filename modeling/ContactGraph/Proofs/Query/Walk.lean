import ContactGraph.Proofs.Store.Groups

/-!
# Walked chains

The patterns that `walk` makes for a chain are met just when the chain leads from the start to the
value of the target. A group that is a walked chain with other patterns behind it is therefore met
when the chain leads to a node of which they say what holds (`isTrue_holds_walk_append_iff`), and
one with a condition on the target when the condition holds of the node (`isTrue_holds_walk_iff`).
The variables made up on the way are those behind the counter, so a valuation that leaves them
unbound can be extended one step at a time.
-/

namespace ContactGraph.Query

variable {T : Store} {β : Valuation} {g : Group}

/-! ## Equations -/

@[simp] theorem walk_nil (start : Variable) (n : Nat) :
    walk start [] n = (⟨[], start, start⟩, n) :=
  rfl

@[simp] theorem walk_cons_group (start : Variable) (p : Property) (ps : List Property) (n : Nat) :
    (walk start (p :: ps) n).1.group =
      step start p (.numbered (n + 1)) :: (walk (.numbered (n + 1)) ps (n + 1)).1.group := by
  cases ps <;> rfl

@[simp] theorem walk_cons_target (start : Variable) (p : Property) (ps : List Property) (n : Nat) :
    (walk start (p :: ps) n).1.target = (walk (.numbered (n + 1)) ps (n + 1)).1.target := by
  cases ps <;> rfl

@[simp] theorem walk_snd (start : Variable) (chain : List Property) (n : Nat) :
    (walk start chain n).2 = n + chain.length := by
  induction chain generalizing start n with
  | nil => rfl
  | cons p ps ih =>
    have hstep : (walk start (p :: ps) n).2 = (walk (.numbered (n + 1)) ps (n + 1)).2 := by
      cases ps <;> rfl
    rw [hstep, ih, List.length_cons]
    omega

/-- Walking two chains one after the other gives the patterns of walking them at once. -/
theorem walk_append_group (start : Variable) (xs ys : List Property) (n : Nat) :
    (walk start (xs ++ ys) n).1.group = (walk start xs n).1.group ++
      (walk (walk start xs n).1.target ys (n + xs.length)).1.group := by
  induction xs generalizing start n with
  | nil => rfl
  | cons p ps ih =>
    rw [List.cons_append, walk_cons_group, walk_cons_group, walk_cons_target, ih, List.cons_append,
      List.length_cons, Nat.add_right_comm n 1, Nat.add_assoc n]

theorem walk_append_target (start : Variable) (xs ys : List Property) (n : Nat) :
    (walk start (xs ++ ys) n).1.target =
      (walk (walk start xs n).1.target ys (n + xs.length)).1.target := by
  induction xs generalizing start n with
  | nil => rfl
  | cons p ps ih =>
    rw [List.cons_append, walk_cons_target, walk_cons_target, ih, List.length_cons,
      Nat.add_right_comm n 1, Nat.add_assoc n]

/-! ## Chains -/

/-- A walked chain with a group behind it can be met when the chain leads to a node of which the
group says what holds. The group is met with all that was bound before. -/
theorem isTrue_holds_walk_append_iff {start : Variable} {chain : List Property} {n : Nat}
    {x : Node} (hstart : β start = some x) (hfree : ∀ k, n < k → β (.numbered k) = none)
    {P : Node → Prop}
    (hg : ∀ γ y, γ (walk start chain n).1.target = some y →
      (∀ v z, β v = some z → γ v = some z) →
      (∀ k, n + chain.length < k → γ (.numbered k) = none) → (T.IsTrue γ (.holds g) ↔ P y)) :
    T.IsTrue β (.holds ((walk start chain n).1.group ++ g)) ↔ ∃ y, T.Path chain x y ∧ P y := by
  induction chain generalizing β start n x with
  | nil =>
    rw [walk_nil, List.nil_append, hg β x hstart (fun _ _ h => h) hfree]
    simp [Store.Path]
  | cons p ps ih =>
    have hfree' : ∀ y k, n + 1 < k → β.set (.numbered (n + 1)) y (.numbered k) = none := by
      intro y k hk
      rw [Valuation.set_of_ne β y (by simp; omega), hfree k (by omega)]
    have hkeep : ∀ y v z, β v = some z → β.set (.numbered (n + 1)) y v = some z := by
      intro y v z hv
      rwa [Valuation.set_of_ne β y]
      rintro rfl
      rw [hfree (n + 1) (Nat.lt_succ_self n)] at hv
      cases hv
    have hrest : ∀ y, T.IsTrue (β.set (.numbered (n + 1)) y)
        (.holds ((walk (.numbered (n + 1)) ps (n + 1)).1.group ++ g)) ↔
          ∃ z, T.Path ps y z ∧ P z := fun y =>
      ih (Valuation.set_self β _ y) (hfree' y) fun γ z hz hbound hk =>
        hg γ z (by rwa [walk_cons_target]) (fun v w hv => hbound v w (hkeep y v w hv))
          fun k hlt => hk k (by simp at hlt; omega)
    rw [walk_cons_group, List.cons_append,
      Store.isTrue_holds_step_iff hstart (hfree (n + 1) (Nat.lt_succ_self n))]
    simp only [hrest, Store.Path]
    constructor
    · rintro ⟨y, hstep, z, hpath, hz⟩
      exact ⟨z, ⟨y, hstep, hpath⟩, hz⟩
    · rintro ⟨z, ⟨y, hstep, hpath⟩, hz⟩
      exact ⟨y, hstep, z, hpath, hz⟩

/-- A walked chain with a condition on its target can be met when the chain leads to a node of
which the condition holds. -/
theorem isTrue_holds_walk_iff {start : Variable} {chain : List Property} {n : Nat} {a : Node}
    (hstart : β start = some a) (hfree : ∀ k, n < k → β (.numbered k) = none) {e : Expr}
    {P : Node → Prop}
    (he : ∀ γ x, γ (walk start chain n).1.target = some x → (T.IsTrue γ e ↔ P x)) :
    T.IsTrue β (.holds ((walk start chain n).1.group ++ [.filter e])) ↔
      ∃ x, T.Path chain a x ∧ P x :=
  isTrue_holds_walk_append_iff hstart hfree fun γ x hx _ _ =>
    Store.isTrue_holds_filter_iff.trans (he γ x hx)

/-- A walked chain can be met when it leads anywhere. -/
theorem isTrue_holds_walk_group_iff {start : Variable} {chain : List Property} {n : Nat} {x : Node}
    (hstart : β start = some x) (hfree : ∀ k, n < k → β (.numbered k) = none) :
    T.IsTrue β (.holds (walk start chain n).1.group) ↔ ∃ y, T.Path chain x y := by
  have hnil : ∀ γ y, γ (walk start chain n).1.target = some y →
      (∀ v z, β v = some z → γ v = some z) →
      (∀ k, n + chain.length < k → γ (.numbered k) = none) → (T.IsTrue γ (.holds []) ↔ True) :=
    fun _ _ _ _ _ => iff_true_intro Store.isTrue_holds_nil
  simpa using isTrue_holds_walk_append_iff hstart hfree hnil

end ContactGraph.Query
