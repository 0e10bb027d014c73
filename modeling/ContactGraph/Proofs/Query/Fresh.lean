import ContactGraph.Proofs.Query.Attempt
import ContactGraph.Proofs.Query.Variables

/-!
# Computations that make up variables

`Fresh.Yields x n Q` : from the count `n` on, the computation `x` ends with a count that is not
smaller, and `Q` holds of that count and of the result. The rules below follow the computations, and
give for each of them what its result uses : a walked chain (`Walk.Uses`), patterns that lead to a
value (`Reach.Uses`), and the expressions of columns. `Attempt.Yields` says the same of an attempt
when it succeeds.
-/

namespace ContactGraph.Query

open Vocabulary

variable {α β : Type} {n : Nat} {outer : List Variable} {lo hi : Nat} {start resource : Variable}

/-! ## Computations -/

/-- From `n` on, the computation ends with a count and a result that have `Q`. -/
def Fresh.Yields (x : Fresh α) (n : Nat) (Q : Nat → α → Prop) : Prop :=
  n ≤ (x n).2 ∧ Q (x n).2 (x n).1

namespace Fresh

variable {x : Fresh α} {P : Nat → α → Prop} {Q : Nat → β → Prop}

theorem yields_pure {a : α} (h : P n a) : Fresh.Yields (pure a) n P :=
  ⟨Nat.le_refl n, h⟩

/-- A sequence ends with what its second part does behind the first one. -/
theorem Yields.bind {f : α → Fresh β} (hx : x.Yields n P)
    (hf : ∀ m a, n ≤ m → P m a → (f a).Yields m Q) : Fresh.Yields (x >>= f) n Q :=
  have hrest := hf (x n).2 (x n).1 hx.1 hx.2
  ⟨hx.1.trans hrest.1, hrest.2⟩

theorem Yields.mono {P' : Nat → α → Prop} (hx : x.Yields n P)
    (h : ∀ m a, n ≤ m → P m a → P' m a) : x.Yields n P' :=
  ⟨hx.1, h _ _ hx.1 hx.2⟩

/-- The same of a computation whose end is known. -/
theorem Yields.of_eq {a : α} {m : Nat} (hx : x.Yields n P) (h : x n = (a, m)) : n ≤ m ∧ P m a := by
  rw [Fresh.Yields, h] at hx
  exact hx

end Fresh

/-- An expression in front of others that are made behind it. -/
theorem yields_cons {x : Fresh α} {rest : Fresh (List Expr)} {g : α → Expr}
    (hx : x.Yields n fun m a => (g a).Uses outer n m)
    (hrest : ∀ m, rest.Yields m (Apart outer m)) :
    Fresh.Yields (do let a ← x; let es ← rest; pure (g a :: es)) n (Apart outer n) :=
  hx.bind fun m _ hm ha => (hrest m).bind fun _ _ _ hes => Fresh.yields_pure ⟨m, hm, ha, hes⟩

theorem yields_fresh (n : Nat) : fresh.Yields n (MadeUp n) :=
  ⟨Nat.le_succ n, n + 1, Nat.lt_succ_self n, Nat.le_refl _, rfl⟩

/-- From `n` on, the attempt fails, or ends with a count and a result that have `Q`. -/
def Attempt.Yields (x : Attempt α) (n : Nat) (Q : Nat → α → Prop) : Prop :=
  ∀ a m, x n = .ok (a, m) → n ≤ m ∧ Q m a

namespace Attempt

variable {x : Attempt α} {P : Nat → α → Prop} {Q : Nat → β → Prop}

theorem yields_pure {a : α} (h : P n a) : Attempt.Yields (pure a) n P := by
  intro b m hb
  obtain ⟨rfl, rfl⟩ := Prod.mk.inj (Attempt.pure_eq_ok_iff.mp hb)
  exact ⟨Nat.le_refl n, h⟩

theorem yields_accept {y : Fresh α} (hy : y.Yields n P) : (accept y).Yields n P := by
  intro a m ha
  have hy' : (y n).1 = a ∧ (y n).2 = m := Prod.ext_iff.mp (accept_eq_ok_iff.mp ha)
  rw [← hy'.1, ← hy'.2]
  exact hy

theorem yields_reject (r : Rejection) : Attempt.Yields (reject r) n P := fun _ _ h =>
  absurd h reject_ne_ok

theorem Yields.bind {f : α → Attempt β} (hx : x.Yields n P)
    (hf : ∀ m a, n ≤ m → P m a → (f a).Yields m Q) : Attempt.Yields (x >>= f) n Q := by
  intro b k hb
  obtain ⟨a, m, ha, hb⟩ := Attempt.bind_eq_ok_iff.mp hb
  obtain ⟨hle, ha⟩ := hx a m ha
  obtain ⟨hle', hb⟩ := hf m a hle ha b k hb
  exact ⟨hle.trans hle', hb⟩

end Attempt

/-! ## Chains -/

/-- A walked chain whose patterns use `outer` and what was made up, and whose last two variables are
among those. -/
structure Walk.Uses (outer : List Variable) (lo hi : Nat) (w : Walk) : Prop where
  /-- The patterns. -/
  group : w.group.Uses outer lo hi
  /-- The subject of the last step. -/
  previous : w.previous ∈ outer ++ w.group.binds
  /-- The end. -/
  target : w.target ∈ outer ++ w.group.binds

theorem mem_binds_step (a : Variable) (p : Property) (b : Variable) :
    b ∈ Group.binds [step a p b] := by
  refine mem_binds_iff.mpr ⟨_, List.mem_singleton_self _, ?_⟩
  unfold step
  split <;> simp [edge, Pattern.binds, Pattern.vars, Expr.termVars]

theorem mem_binds_edge (a : Variable) (p : Iri) (b : Variable) : b ∈ Group.binds [edge a p b] := by
  simp [Group.binds, edge, Pattern.binds, Pattern.vars, Expr.termVars]

theorem yields_walk (chain : List Property) (hstart : start ∈ outer) :
    (walk start chain).Yields n (Walk.Uses outer n) := by
  induction chain generalizing start outer n with
  | nil =>
    have hin : start ∈ outer ++ Group.binds [] := List.mem_append_left _ hstart
    exact Fresh.yields_pure ⟨Group.Uses.nil, hin, hin⟩
  | cons p ps ih =>
    cases ps with
    | nil =>
      refine (yields_fresh n).bind fun m next hm hnext => Fresh.yields_pure ?_
      have hbinds := mem_binds_step start p next
      exact {
        group := Group.Uses.step (.inl hstart) (.inr hnext) p
        previous := List.mem_append_left _ hstart
        target := List.mem_append_right outer hbinds }
    | cons q qs =>
      refine (yields_fresh n).bind fun m next hm hnext => ?_
      have hbinds := mem_binds_step start p next
      refine (ih (List.mem_append_right outer hbinds)).bind fun k rest hk hrest => ?_
      have hgroup : Group.Uses outer n k (step start p next :: rest.group) :=
        (Group.Uses.step (.inl hstart) (.inr (hnext.mono (Nat.le_refl n) hk)) p).append
          (hrest.group.mono (fun _ hv => hv) hm (Nat.le_refl k))
      have hassoc : outer ++ Group.binds [step start p next] ++ rest.group.binds =
          outer ++ Group.binds (step start p next :: rest.group) := by
        rw [List.append_assoc, ← binds_append, List.singleton_append]
      exact Fresh.yields_pure {
        group := hgroup
        previous := hassoc ▸ hrest.previous
        target := hassoc ▸ hrest.target }

/-! ## Values -/

/-- Patterns that use `outer` and what was made up, and whose value is among those. -/
structure Reach.Uses (outer : List Variable) (lo hi : Nat) (r : Reach) : Prop where
  /-- The patterns. -/
  group : r.group.Uses outer lo hi
  /-- The variable of the value. -/
  value : r.value ∈ outer ++ r.group.binds

theorem Reach.Uses.mono {r : Reach} {lo' : Nat} (hr : r.Uses outer lo hi) (hle : lo' ≤ lo) :
    r.Uses outer lo' hi :=
  { hr with group := hr.group.mono (fun _ hv => hv) hle (Nat.le_refl hi) }

/-- Patterns that lead to a value may stand behind others. -/
theorem Group.Uses.reach {g : Group} {r : Reach} (hg : g.Uses outer lo hi)
    (hr : r.Uses (outer ++ g.binds) lo hi) : Reach.Uses outer lo hi ⟨g ++ r.group, r.value⟩ := by
  refine ⟨hg.append hr.group, ?_⟩
  rw [binds_append, ← List.append_assoc]
  exact hr.value

theorem Walk.Uses.reach {w : Walk} (hw : w.Uses outer lo hi) :
    Reach.Uses outer lo hi ⟨w.group, w.target⟩ :=
  ⟨hw.group, hw.target⟩

theorem Walk.Uses.mono {w : Walk} {hi' : Nat} (hw : w.Uses outer lo hi) (hle : hi ≤ hi') :
    w.Uses outer lo hi' :=
  { hw with group := hw.group.mono (fun _ hv => hv) (Nat.le_refl lo) hle }

/-- The patterns of a free property with a name. -/
theorem uses_freeProperty {property value : Variable} (hresource : resource ∈ outer)
    (hproperty : MadeUp lo hi property) (hvalue : MadeUp lo hi value) (name : String) :
    Reach.Uses outer lo hi ⟨[
      edge resource Nao.hasProperty property,
      .triple (.var property) Nao.propertyName (Expr.text name),
      edge property Nao.propertyValue value], value⟩ := by
  have hfirst : Group.Uses outer lo hi [edge resource Nao.hasProperty property] :=
    .edge (.inl hresource) (.inr hproperty) _
  refine ⟨hfirst.append (.append (.triple _ rfl rfl ?_) (.edge (.inr hproperty) (.inr hvalue) _)),
    ?_⟩
  · simp [Expr.termVars, Expr.text, hproperty]
  · simp [Group.binds, edge, Pattern.binds, Pattern.vars, Expr.termVars]

theorem yields_freeProperty (name : String) (hresource : resource ∈ outer) :
    (freeProperty resource name).Yields n (Reach.Uses outer n) := by
  refine (yields_fresh n).bind fun m property hm hproperty => ?_
  refine (yields_fresh m).bind fun k value hk hvalue => Fresh.yields_pure ?_
  exact uses_freeProperty hresource (hproperty.mono (Nat.le_refl n) hk)
    (hvalue.mono hm (Nat.le_refl k)) name

end ContactGraph.Query
