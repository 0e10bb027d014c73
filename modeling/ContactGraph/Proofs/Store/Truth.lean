import ContactGraph.Proofs.Filter.Meaning
import ContactGraph.Proofs.Store.Solutions

/-!
# When conditions are true

What the expressions that filters are made of say about a store : conjunctions and disjunctions of
any length, numbers of resources, and texts compared in a match mode. The store compares texts as
they are compared here (`Store.value_textExpr`), and some item of a list as here too
(`Store.value_valueExpr`).
-/

namespace ContactGraph

open Query Vocabulary

/-! ## Texts compared here -/

namespace Query

theorem hasPart_iff {part cs : List Char} : hasPart part cs = true ↔ part <:+: cs := by
  induction cs with
  | nil => simp [hasPart, List.infix_nil]
  | cons c cs ih => simp [hasPart, ih, List.infix_cons_iff]

theorem modeMatches_iff {mode : MatchMode} {s wanted : String} :
    modeMatches mode s.toList wanted.toList = true ↔ mode.Relates s wanted := by
  cases mode <;> simp [modeMatches, MatchMode.Relates, hasPart_iff, String.toList_inj]

/-- Texts are compared here as they are in the store. -/
theorem textMatches_iff {s wanted : String} {flags : MatchFlags} :
    textMatches s wanted flags = true ↔ flags.Matches s wanted := by
  unfold textMatches MatchFlags.Matches
  split <;> exact modeMatches_iff

end Query

namespace Store

variable {T : Store} {β : Valuation} {rows : List Valuation}

/-! ## Truth values -/

theorem bothHold_eq_true {a b : Option Node} :
    bothHold a b = some (.bool true) ↔ a = some (.bool true) ∧ b = some (.bool true) := by
  unfold bothHold
  split <;> simp_all

theorem eitherHolds_eq_true {a b : Option Node} :
    eitherHolds a b = some (.bool true) ↔ a = some (.bool true) ∨ b = some (.bool true) := by
  unfold eitherHolds
  split <;> simp_all

theorem isTrue_bool (b : Bool) : T.IsTrue β (.bool b) ↔ b = true := by
  simp [IsTrue, value]

theorem isTrue_and {l r : Expr} :
    T.IsTrue β (.binary l .and r) ↔ T.IsTrue β l ∧ T.IsTrue β r := by
  simp only [IsTrue, value, Operator.apply, bothHold_eq_true]

theorem isTrue_or {l r : Expr} :
    T.IsTrue β (.binary l .or r) ↔ T.IsTrue β l ∨ T.IsTrue β r := by
  simp only [IsTrue, value, Operator.apply, eitherHolds_eq_true]

theorem isTrue_foldl_and (e : Expr) (es : List Expr) :
    T.IsTrue β (es.foldl (fun acc e => .binary acc .and e) e) ↔
      T.IsTrue β e ∧ ∀ e' ∈ es, T.IsTrue β e' := by
  induction es generalizing e with
  | nil => simp
  | cons e' es ih => simp [ih, isTrue_and, and_assoc]

theorem isTrue_foldl_or (e : Expr) (es : List Expr) :
    T.IsTrue β (es.foldl (fun acc e => .binary acc .or e) e) ↔
      T.IsTrue β e ∨ ∃ e' ∈ es, T.IsTrue β e' := by
  induction es generalizing e with
  | nil => simp
  | cons e' es ih => simp [ih, isTrue_or, or_assoc]

/-- A conjunction is true when all its parts are. -/
theorem isTrue_all (es : List Expr) : T.IsTrue β (Expr.all es) ↔ ∀ e ∈ es, T.IsTrue β e := by
  cases es with
  | nil => simp [Expr.all, Expr.joinWith, isTrue_bool]
  | cons e es => simp [Expr.all, Expr.joinWith, isTrue_foldl_and]

/-- A disjunction is true when some part of it is. -/
theorem isTrue_any (es : List Expr) : T.IsTrue β (Expr.any es) ↔ ∃ e ∈ es, T.IsTrue β e := by
  cases es with
  | nil => simp [Expr.any, Expr.joinWith, isTrue_bool]
  | cons e es => simp [Expr.any, Expr.joinWith, isTrue_foldl_or]

/-! ## Comparisons -/

theorem equals?_eq_true {a b : Node} : a.equals? b = some true ↔ a = b := by
  unfold Node.equals?
  split
  · simp_all
  · split <;> simp_all

theorem comparison_equals?_eq_true {x y : Option Node} :
    comparison Node.equals? x y = some (.bool true) ↔ ∃ a, x = some a ∧ y = some a := by
  cases x with
  | none => simp [comparison]
  | some a =>
    cases y with
    | none => simp [comparison]
    | some b =>
      simp only [comparison, Option.map_eq_some_iff, Node.bool.injEq, exists_eq_right,
        equals?_eq_true, Option.some.injEq, eq_comm (a := b)]

theorem memberOf_eq_true {x : Option Node} {ys : List (Option Node)} :
    memberOf x ys = some (.bool true) ↔ ∃ a, x = some a ∧ some a ∈ ys := by
  induction ys with
  | nil => cases x <;> simp [memberOf]
  | cons y ys ih =>
    rw [memberOf, eitherHolds_eq_true, comparison_equals?_eq_true, ih]
    constructor
    · rintro (⟨a, hx, rfl⟩ | ⟨a, hx, ha⟩)
      · exact ⟨a, hx, List.mem_cons_self⟩
      · exact ⟨a, hx, List.mem_cons_of_mem _ ha⟩
    · rintro ⟨a, hx, ha⟩
      rcases List.mem_cons.mp ha with rfl | ha
      · exact .inl ⟨a, hx, rfl⟩
      · exact .inr ⟨a, hx, ha⟩

theorem isTrue_eq {l r : Expr} :
    T.IsTrue β (.binary l .eq r) ↔ ∃ a, T.value [] β l = some a ∧ T.value [] β r = some a := by
  simp only [IsTrue, value, Operator.apply, comparison_equals?_eq_true]

/-! ## Numbers -/

theorem values_eq_map (es : List Expr) : T.values rows β es = es.map (T.value rows β) := by
  induction es with
  | nil => simp [values]
  | cons e es ih => simp [values, ih]

theorem value_idOf (v : Variable) :
    T.value rows β (Expr.idOf (.var v)) =
      ((β v).bind T.number?).map fun n => .integer n.toNat := by
  cases h : β v with
  | none => simp [Expr.idOf, value, values, call, runBuiltin, h]
  | some x => cases x <;> simp [Expr.idOf, value, values, call, runBuiltin, number?, h]

theorem number_eq_iff {n : Option LocalId} {id : LocalId} :
    (∃ a : Node, n.map (fun n => Node.integer n.toNat) = some a ∧ Node.integer id.toNat = a) ↔
      n = some id := by
  cases n with
  | none => simp
  | some m =>
    simp only [Option.map_some, Option.some.injEq, exists_eq_left', Node.integer.injEq,
      Int.ofNat_inj, UInt32.toNat_inj, eq_comm (a := id)]

/-- The number of a variable is the one given. -/
theorem isTrue_idOf_eq {v : Variable} {id : LocalId} :
    T.IsTrue β (.binary (Expr.idOf (.var v)) .eq (.integer id.toNat)) ↔
      (β v).bind T.number? = some id := by
  rw [isTrue_eq, value_idOf, ← number_eq_iff]
  simp [value]

/-- The number of a variable is one of a list. -/
theorem isTrue_idIn {v : Variable} {ids : List LocalId} :
    T.IsTrue β (idIn v ids) ↔ ∃ id ∈ ids, (β v).bind T.number? = some id := by
  simp only [idIn, IsTrue, value, memberOf_eq_true, value_idOf, values_eq_map, ← number_eq_iff]
  constructor
  · rintro ⟨a, hx, ha⟩
    obtain ⟨e, he, hea⟩ := List.mem_map.mp ha
    obtain ⟨id, hid, rfl⟩ := List.mem_map.mp he
    exact ⟨id, hid, a, hx, by simpa [value] using hea⟩
  · rintro ⟨id, hid, a, hx, ha⟩
    refine ⟨a, hx, List.mem_map.mpr ⟨_, List.mem_map.mpr ⟨id, hid, rfl⟩, ?_⟩⟩
    simp [value, ha]

/-! ## Texts compared by expressions -/

theorem equals?_text (s w : String) : (Node.text s).equals? (.text w) = some (decide (s = w)) := by
  by_cases h : s = w <;> simp [Node.equals?, h]

/-- Two texts compared by an expression are compared as they are here. -/
theorem value_modeExpr {subject wanted : Expr} {s w : String} (mode : MatchMode)
    (hs : T.value rows β subject = some (.text s)) (hw : T.value rows β wanted = some (.text w)) :
    T.value rows β (modeExpr mode subject wanted) =
      some (.bool (modeMatches mode s.toList w.toList)) := by
  have hequal : T.value rows β (.binary subject .eq wanted) =
      some (.bool (decide (s.toList = w.toList))) := by
    simp only [value, hs, hw, Operator.apply, comparison, equals?_text, Option.map_some,
      String.toList_inj]
  cases mode with
  | contains =>
    have hpart : hasPart w.toList s.toList = decide (w.toList <:+: s.toList) := by
      rw [Bool.eq_iff_iff, hasPart_iff, decide_eq_true_iff]
    simp [modeExpr, modeMatches, value, values, call, runBuiltin, hs, hw, hpart]
  | startsWith =>
    have hfront : w.toList.isPrefixOf s.toList = decide (w.toList <+: s.toList) := by
      rw [Bool.eq_iff_iff, List.isPrefixOf_iff_prefix, decide_eq_true_iff]
    simp [modeExpr, modeMatches, value, values, call, runBuiltin, hs, hw, hfront]
  | endsWith =>
    have hback : w.toList.isSuffixOf s.toList = decide (w.toList <:+ s.toList) := by
      rw [Bool.eq_iff_iff, List.isSuffixOf_iff_suffix, decide_eq_true_iff]
    simp [modeExpr, modeMatches, value, values, call, runBuiltin, hs, hw, hback]
  | exactly => exact hequal
  | fixedString => exact hequal
  | phoneNumber => exact hequal

/-- The expression for a text gives what the comparison here gives. -/
theorem value_textExpr {subject : Expr} {s : String}
    (hs : T.value rows β subject = some (.text s)) (wanted : String) (flags : MatchFlags) :
    T.value rows β (textExpr subject wanted flags) =
      some (.bool (textMatches s wanted flags)) := by
  unfold textExpr textMatches
  split
  · refine value_modeExpr flags.mode ?_ (by simp [Expr.text, value])
    simp [Expr.lowerCase, value, values, call, runBuiltin, hs]
  · exact value_modeExpr flags.mode hs (by simp [Expr.text, value])

/-- A disjunction of settled expressions is settled. -/
theorem value_foldl_or {α : Type} {F : α → Expr} {p : α → Bool} {e : Expr} {b : Bool} {xs : List α}
    (he : T.value rows β e = some (.bool b))
    (h : ∀ x ∈ xs, T.value rows β (F x) = some (.bool (p x))) :
    T.value rows β ((xs.map F).foldl (fun acc e => .binary acc .or e) e) =
      some (.bool (b || xs.any p)) := by
  induction xs generalizing e b with
  | nil => simpa using he
  | cons x xs ih =>
    rw [List.forall_mem_cons] at h
    have hor : T.value rows β (.binary e .or (F x)) = some (.bool (b || p x)) := by
      simp only [value, Operator.apply, he, h.1]
      cases b <;> cases p x <;> rfl
    rw [List.map_cons, List.foldl_cons, ih hor h.2, List.any_cons, Bool.or_assoc]

theorem value_any {α : Type} {F : α → Expr} {p : α → Bool} {xs : List α}
    (h : ∀ x ∈ xs, T.value rows β (F x) = some (.bool (p x))) :
    T.value rows β (Expr.any (xs.map F)) = some (.bool (xs.any p)) := by
  cases xs with
  | nil => simp [Expr.any, Expr.joinWith, value]
  | cons x xs =>
    rw [List.forall_mem_cons] at h
    exact value_foldl_or h.1 h.2

/-- The expression for the text of a variable gives whether some text of a value matches. -/
theorem value_valueExpr {v : Variable} {x : Node} (hx : β v = some x) {wanted : Value}
    (hw : wanted.type = .text ∨ wanted.type = .list) (flags : MatchFlags) :
    T.value rows β (valueExpr v wanted flags) =
      some (.bool ((wantedTexts wanted).any fun w => textMatches x.str w flags)) := by
  have hstr : T.value rows β (.str (.var v)) = some (.text x.str) := by simp [value, hx]
  cases wanted with
  | text s => simpa [valueExpr, wantedTexts, Value.toText] using value_textExpr hstr s flags
  | list items => exact value_any fun w _ => value_textExpr hstr w flags
  | _ => simp [Value.type] at hw

/-- The text of a variable matches a wanted text. -/
theorem isTrue_textExpr {v : Variable} {x : Node} (hx : β v = some x) (wanted : String)
    (flags : MatchFlags) :
    T.IsTrue β (textExpr (.str (.var v)) wanted flags) ↔ flags.Matches x.str wanted := by
  have hstr : T.value [] β (.str (.var v)) = some (.text x.str) := by simp [value, hx]
  rw [IsTrue, value_textExpr hstr, ← textMatches_iff, Option.some_inj, Node.bool.injEq]

/-- The text of a variable matches one of the texts a value stands for. -/
theorem isTrue_valueExpr {v : Variable} {x : Node} (hx : β v = some x) {wanted : Value}
    (hw : wanted.type = .text ∨ wanted.type = .list) (flags : MatchFlags) :
    T.IsTrue β (valueExpr v wanted flags) ↔
      ∃ w ∈ wantedTexts wanted, flags.Matches x.str w := by
  rw [IsTrue, value_valueExpr hx hw, Option.some_inj, Node.bool.injEq, List.any_eq_true]
  simp only [textMatches_iff]

end Store

end ContactGraph
