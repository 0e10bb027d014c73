import ContactGraph.Query.Plan

/-!
# Attempts that succeed, and refused ones

An attempt succeeds when all its parts do, and the counter of variables goes from one part to the
next. It is refused when one of its parts is, for the reason of the first that is.
-/

namespace ContactGraph.Query

variable {n : Nat}

theorem Attempt.bind_eq_ok_iff {α β : Type} {x : Attempt α} {f : α → Attempt β} {r : β × Nat} :
    (x >>= f) n = .ok r ↔ ∃ a m, x n = .ok (a, m) ∧ f a m = .ok r := by
  show (x n >>= fun am => f am.1 am.2) = .ok r ↔ _
  cases x n with
  | error err => simp [bind, Except.bind]
  | ok am =>
    exact ⟨fun h => ⟨am.1, am.2, rfl, h⟩, fun ⟨a, m, hx, h⟩ => by cases hx; exact h⟩

theorem Attempt.pure_eq_ok_iff {α : Type} {a : α} {r : α × Nat} :
    (pure a : Attempt α) n = .ok r ↔ (a, n) = r :=
  Except.ok.injEq _ _ |>.to_iff

theorem accept_eq_ok_iff {α : Type} {x : Fresh α} {r : α × Nat} :
    accept x n = .ok r ↔ x n = r :=
  Except.ok.injEq _ _ |>.to_iff

theorem accept_bind {α β : Type} {x : Fresh α} {f : α → Attempt β} :
    (accept x >>= f) n = f (x n).1 (x n).2 :=
  rfl

theorem reject_ne_ok {α : Type} {r : Rejection} {a : α × Nat} : reject r n ≠ .ok a := by
  simp [reject]

/-- What follows an attempt matters for what the attempt gives. -/
theorem Attempt.bind_congr {α β : Type} {x : Attempt α} {f f' : α → Attempt β}
    (h : ∀ a m, x n = .ok (a, m) → f a m = f' a m) : (x >>= f) n = (x >>= f') n := by
  show (x n >>= fun am => f am.1 am.2) = (x n >>= fun am => f' am.1 am.2)
  cases hx : x n with
  | error err => rfl
  | ok am => exact h am.1 am.2 hx

/-- A query for contacts is what its parts give. -/
theorem exists_planFrom_of_plan {s : Scope} {request : Request} {p : Plan}
    (h : plan s request = .ok p) : ∃ m, planFrom s request 0 = .ok (p, m) := by
  cases hfrom : planFrom s request 0 with
  | error r => simp [plan, hfrom, bind, Except.bind] at h
  | ok q =>
    simp only [plan, hfrom, bind, Except.bind] at h
    split at h
    · cases h
    · cases h
      exact ⟨q.2, rfl⟩

/-! ## Refusals -/

variable {α β : Type} {r : Rejection}

theorem Attempt.bind_eq_error_iff {x : Attempt α} {f : α → Attempt β} :
    (x >>= f) n = .error r ↔
      x n = .error r ∨ ∃ a m, x n = .ok (a, m) ∧ f a m = .error r := by
  show (x n >>= fun am => f am.1 am.2) = .error r ↔ _
  cases x n with
  | error e => simp [bind, Except.bind]
  | ok am =>
    refine ⟨fun h => .inr ⟨am.1, am.2, rfl, h⟩, ?_⟩
    rintro (h | ⟨a, m, hx, h⟩)
    · cases h
    · cases hx
      exact h

theorem Attempt.pure_ne_error {a : α} : (pure a : Attempt α) n ≠ .error r :=
  nofun

theorem accept_ne_error {x : Fresh α} : accept x n ≠ .error r :=
  nofun

theorem reject_eq_error_iff {r' : Rejection} : (reject r' : Attempt α) n = .error r ↔ r' = r :=
  Except.error.injEq _ _ |>.to_iff

/-- The refusal of an attempt, without the counter. -/
theorem Attempt.map_fst_eq_error_iff {x : Attempt α} :
    (x n).map (·.1) = .error r ↔ x n = .error r := by
  cases x n with
  | error e => simp [Except.map]
  | ok am => simp [Except.map]

/-- What is not refused succeeds. -/
theorem Attempt.exists_eq_ok_of_ne_error {x : Attempt α} (h : ∀ r, x n ≠ .error r) :
    ∃ a m, x n = .ok (a, m) := by
  cases hx : x n with
  | error e => exact absurd hx (h e)
  | ok am => exact ⟨am.1, am.2, rfl⟩

end ContactGraph.Query
