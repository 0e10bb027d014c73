import ContactGraph.Proofs.Store.Solutions
import ContactGraph.Query.Column

/-!
# Variables of terms

`Expr.mentioned` lists the variables that stand in an expression, and `Expr.free` those that stand
in it outside of every group that binds them, by an edge or as the name of a graph.

`Expr.Uses outer lo hi e` : the free variables of `e` are among `outer`, and the others it mentions
were made up while the counter went from `lo` to `hi`. The rules below follow the ways to make
terms. A group may use what one in front of it binds (`Group.Uses.append`), and what a group binds
is hidden behind it (`Expr.Uses.holds`, `Expr.Uses.select`). Expressions made one after the other
are `Apart` : they share no variable but those of `outer`.
-/

namespace ContactGraph.Query

/-! ## Occurrences -/

/-- The variables that a pattern binds. -/
def Pattern.binds : Pattern → List Variable
  | .graph v _ => [v]
  | p => p.vars

/-- The variables that a group binds. -/
def Group.binds (g : Group) : List Variable :=
  g.flatMap Pattern.binds

/-- The variables of a group or a selection as they are seen from outside : with `closed` all but
those that the group binds. -/
def outside (closed : Bool) (g : Group) (vs : List Variable) : List Variable :=
  if closed then vs.filter (· ∉ g.binds) else vs

mutual

/-- The variables of an expression, with `closed` only where no group around them binds them. -/
def Expr.mentions (closed : Bool) : Expr → List Variable
  | .var v => [v]
  | .iri _ => []
  | .literal _ _ => []
  | .integer _ => []
  | .bool _ => []
  | .call _ args => mentionsOfAll closed args
  | .str e => e.mentions closed
  | .bound v => [v]
  | .ifElse c y n => c.mentions closed ++ y.mentions closed ++ n.mentions closed
  | .binary l _ r => l.mentions closed ++ r.mentions closed
  | .isIn e items => e.mentions closed ++ mentionsOfAll closed items
  | .holds group => outside closed group (mentionsOfGroup closed group)
  | .groupConcat e _ => e.mentions closed
  | .select s => s.mentions closed

/-- Those of a graph pattern. -/
def Pattern.mentions (closed : Bool) : Pattern → List Variable
  | .triple s _ o => s.mentions closed ++ o.mentions closed
  | .optional group => outside closed group (mentionsOfGroup closed group)
  | .graph v group => v :: outside closed group (mentionsOfGroup closed group)
  | .filter e => e.mentions closed

/-- Those of one key of an order. -/
def OrderCondition.mentions (closed : Bool) : OrderCondition → List Variable
  | .mk key _ => key.mentions closed

/-- Those of a selection. -/
def Select.mentions (closed : Bool) : Select → List Variable
  | .mk columns group order _ => outside closed group
    (mentionsOfAll closed columns ++ mentionsOfGroup closed group ++ mentionsOfOrder closed order)

/-- Those of expressions. -/
def mentionsOfAll (closed : Bool) : List Expr → List Variable
  | [] => []
  | e :: es => e.mentions closed ++ mentionsOfAll closed es

/-- Those of patterns. -/
def mentionsOfGroup (closed : Bool) : List Pattern → List Variable
  | [] => []
  | p :: ps => p.mentions closed ++ mentionsOfGroup closed ps

/-- Those of the keys of an order. -/
def mentionsOfOrder (closed : Bool) : List OrderCondition → List Variable
  | [] => []
  | c :: cs => c.mentions closed ++ mentionsOfOrder closed cs

end

attribute [simp] Expr.mentions Pattern.mentions OrderCondition.mentions Select.mentions
  mentionsOfAll mentionsOfGroup mentionsOfOrder

/-- All variables of an expression. -/
def Expr.mentioned (e : Expr) : List Variable :=
  e.mentions false

/-- The variables of an expression that stand outside of every group that binds them. -/
def Expr.free (e : Expr) : List Variable :=
  e.mentions true

variable {outer outer' : List Variable} {lo hi lo' hi' n : Nat} {closed : Bool} {v a b : Variable}
  {e f : Expr} {es fs : List Expr} {g h : Group}

theorem mem_outside_iff {vs : List Variable} :
    v ∈ outside closed g vs ↔ v ∈ vs ∧ (closed = true → v ∉ g.binds) := by
  cases closed <;> simp [outside]

theorem mem_mentionsOfAll_iff :
    v ∈ mentionsOfAll closed es ↔ ∃ e ∈ es, v ∈ e.mentions closed := by
  induction es with
  | nil => simp
  | cons e es ih => simp [ih]

theorem mem_mentionsOfGroup_iff :
    v ∈ mentionsOfGroup closed g ↔ ∃ p ∈ g, v ∈ p.mentions closed := by
  induction g with
  | nil => simp
  | cons p g ih => simp [ih]

theorem binds_append (g h : Group) : Group.binds (g ++ h) = g.binds ++ h.binds :=
  List.flatMap_append

theorem mem_binds_iff : v ∈ g.binds ↔ ∃ p ∈ g, v ∈ p.binds :=
  List.mem_flatMap

theorem mem_mentions_of_termVars (h : v ∈ e.termVars) : v ∈ e.mentions closed := by
  cases e with
  | var w => simpa [Expr.termVars] using h
  | _ => simp [Expr.termVars] at h

/-- What a group binds stands in it. -/
theorem mem_mentionsOfGroup_of_mem_binds (h : v ∈ g.binds) : v ∈ mentionsOfGroup false g := by
  obtain ⟨p, hp, hv⟩ := mem_binds_iff.mp h
  refine mem_mentionsOfGroup_iff.mpr ⟨p, hp, ?_⟩
  cases p with
  | triple s p o =>
    have hv : v ∈ s.termVars ++ o.termVars := hv
    rw [List.mem_append] at hv
    rw [Pattern.mentions, List.mem_append]
    exact hv.imp mem_mentions_of_termVars mem_mentions_of_termVars
  | graph w group => simp_all [Pattern.binds]
  | optional group => simp [Pattern.binds, Pattern.vars] at hv
  | filter e => simp [Pattern.binds, Pattern.vars] at hv

/-! ## Variables made up -/

/-- A variable that was made up while the counter went from `lo` to `hi`. -/
def MadeUp (lo hi : Nat) (v : Variable) : Prop :=
  ∃ k, lo < k ∧ k ≤ hi ∧ v = .numbered k

theorem MadeUp.mono (hlo : lo' ≤ lo) (hhi : hi ≤ hi') (hv : MadeUp lo hi v) :
    MadeUp lo' hi' v := by
  obtain ⟨k, hl, hh, rfl⟩ := hv
  exact ⟨k, by omega, by omega, rfl⟩

/-- Nothing is made up twice. -/
theorem MadeUp.not_both (hle : hi ≤ lo') (hv : MadeUp lo hi v) (hv' : MadeUp lo' hi' v) :
    False := by
  obtain ⟨k, -, hh, rfl⟩ := hv
  obtain ⟨k', hl, -, heq⟩ := hv'
  have hk : k = k' := Variable.numbered.inj heq
  omega

/-- An expression whose free variables are among `outer`, and whose others were made up while the
counter went from `lo` to `hi`. -/
def Expr.Uses (outer : List Variable) (lo hi : Nat) (e : Expr) : Prop :=
  ∀ closed, ∀ v ∈ e.mentions closed, v ∈ outer ∨ closed = false ∧ MadeUp lo hi v

/-- A group whose variables are among `outer` or were made up while the counter went from `lo` to
`hi`, and that binds those it does not find outside. -/
def Group.Uses (outer : List Variable) (lo hi : Nat) (g : Group) : Prop :=
  ∀ closed, ∀ v ∈ mentionsOfGroup closed g,
    v ∈ outer ∨ if closed then v ∈ g.binds else MadeUp lo hi v

namespace Group.Uses

theorem mono (hg : g.Uses outer lo hi) (houter : ∀ v ∈ outer, v ∈ outer') (hlo : lo' ≤ lo)
    (hhi : hi ≤ hi') : g.Uses outer' lo' hi' := by
  intro closed v hv
  refine (hg closed v hv).imp (houter v) fun hmade => ?_
  cases closed with
  | false => exact MadeUp.mono hlo hhi hmade
  | true => exact hmade

theorem mem_of_mem_binds (hg : g.Uses outer lo hi) (hv : v ∈ g.binds) :
    v ∈ outer ∨ MadeUp lo hi v :=
  hg false v (mem_mentionsOfGroup_of_mem_binds hv)

theorem nil : Group.Uses outer lo hi [] := fun _ _ hv =>
  absurd hv List.not_mem_nil

/-- A group may use what one in front of it binds. -/
theorem append (hg : g.Uses outer lo hi) (hh : h.Uses (outer ++ g.binds) lo hi) :
    Group.Uses outer lo hi (g ++ h) := by
  intro closed v hv
  rw [mem_mentionsOfGroup_iff] at hv
  obtain ⟨p, hp, hv⟩ := hv
  rw [binds_append, List.mem_append]
  rcases List.mem_append.mp hp with hp | hp
  · refine (hg closed v (mem_mentionsOfGroup_iff.mpr ⟨p, hp, hv⟩)).imp_right fun hin => ?_
    cases closed with
    | false => exact hin
    | true => exact .inl hin
  · have hin := hh closed v (mem_mentionsOfGroup_iff.mpr ⟨p, hp, hv⟩)
    rw [List.mem_append] at hin
    cases closed with
    | false =>
      rcases hin with (hin | hin) | hin
      · exact .inl hin
      · exact hg.mem_of_mem_binds hin
      · exact .inr hin
    | true =>
      rcases hin with (hin | hin) | hin
      · exact .inl hin
      · exact .inr (.inl hin)
      · exact .inr (.inr hin)

/-- The variables of an edge between terms are bound by it. -/
theorem triple {s o : Expr} (p : Iri) (hs : s.isTerm) (ho : o.isTerm)
    (hvs : ∀ v ∈ s.termVars ++ o.termVars, v ∈ outer ∨ MadeUp lo hi v) :
    Group.Uses outer lo hi [.triple s p o] := by
  have hterm {e : Expr} (he : e.isTerm) {closed : Bool} {v : Variable}
      (hv : v ∈ e.mentions closed) : v ∈ e.termVars := by
    cases e <;> simp_all [Expr.isTerm, Expr.termVars]
  intro closed v hv
  have hv' : v ∈ s.termVars ++ o.termVars := by
    simp only [mentionsOfGroup, Pattern.mentions, List.append_nil, List.mem_append] at hv ⊢
    exact hv.imp (hterm hs) (hterm ho)
  cases closed with
  | false => exact hvs v hv'
  | true => exact .inr (mem_binds_iff.mpr ⟨_, List.mem_singleton_self _, hv'⟩)

theorem edge (ha : a ∈ outer ∨ MadeUp lo hi a) (hb : b ∈ outer ∨ MadeUp lo hi b) (p : Iri) :
    Group.Uses outer lo hi [Query.edge a p b] :=
  triple p rfl rfl (by simp [Expr.termVars, ha, hb])

theorem step (ha : a ∈ outer ∨ MadeUp lo hi a) (hb : b ∈ outer ∨ MadeUp lo hi b) (p : Property) :
    Group.Uses outer lo hi [Query.step a p b] := by
  unfold Query.step
  split
  · exact edge hb ha p.iri
  · exact edge ha hb p.iri

theorem filter (he : e.Uses outer lo hi) : Group.Uses outer lo hi [.filter e] := by
  intro closed v hv
  simp only [mentionsOfGroup, Pattern.mentions, List.append_nil] at hv
  refine (he closed v hv).imp_right fun hmade => ?_
  rw [hmade.1]
  exact hmade.2

/-- The name of a graph is bound, and so is what the group in it binds. -/
theorem graph (hv : v ∈ outer ∨ MadeUp lo hi v) (hg : g.Uses outer lo hi) :
    Group.Uses outer lo hi [.graph v g] := by
  intro closed w hw
  simp only [mentionsOfGroup, Pattern.mentions, List.append_nil, List.mem_cons,
    mem_outside_iff] at hw
  rcases hw with rfl | ⟨hw, hfree⟩
  · cases closed with
    | false => exact hv
    | true =>
      have hbinds : w ∈ (Pattern.graph w g).binds := List.mem_singleton_self w
      exact .inr (mem_binds_iff.mpr ⟨_, List.mem_singleton_self _, hbinds⟩)
  · refine (hg closed w hw).imp_right fun hin => ?_
    cases closed with
    | false => exact hin
    | true => exact absurd hin (hfree rfl)

end Group.Uses

namespace Expr.Uses

theorem mono (he : e.Uses outer lo hi) (houter : ∀ v ∈ outer, v ∈ outer') (hlo : lo' ≤ lo)
    (hhi : hi ≤ hi') : e.Uses outer' lo' hi' := fun closed v hv =>
  (he closed v hv).imp (houter v) fun hmade => ⟨hmade.1, hmade.2.mono hlo hhi⟩

/-- An expression without variables uses nothing. -/
theorem of_mentions_eq_nil (h : ∀ closed, e.mentions closed = []) : e.Uses outer lo hi := by
  intro closed v hv
  rw [h] at hv
  cases hv

theorem iri (i : Iri) : (Expr.iri i).Uses outer lo hi :=
  of_mentions_eq_nil fun _ => by rw [Expr.mentions]

theorem literal (s : String) (type : Option Iri) : (Expr.literal s type).Uses outer lo hi :=
  of_mentions_eq_nil fun _ => by rw [Expr.mentions]

theorem integer (i : Int) : (Expr.integer i).Uses outer lo hi :=
  of_mentions_eq_nil fun _ => by rw [Expr.mentions]

theorem bool (b : Bool) : (Expr.bool b).Uses outer lo hi :=
  of_mentions_eq_nil fun _ => by rw [Expr.mentions]

theorem text (s : String) : (Expr.text s).Uses outer lo hi :=
  literal s none

theorem var (hv : v ∈ outer) : (Expr.var v).Uses outer lo hi := by
  intro closed w hw
  rw [Expr.mentions, List.mem_singleton] at hw
  exact .inl (hw ▸ hv)

theorem bound (hv : v ∈ outer) : (Expr.bound v).Uses outer lo hi := by
  intro closed w hw
  rw [Expr.mentions, List.mem_singleton] at hw
  exact .inl (hw ▸ hv)

theorem call (hes : ∀ e ∈ es, e.Uses outer lo hi) (i : Iri) :
    (Expr.call i es).Uses outer lo hi := by
  intro closed v hv
  rw [Expr.mentions, mem_mentionsOfAll_iff] at hv
  obtain ⟨e, he, hv⟩ := hv
  exact hes e he closed v hv

theorem str (he : e.Uses outer lo hi) : (Expr.str e).Uses outer lo hi := by
  intro closed v hv
  rw [Expr.mentions] at hv
  exact he closed v hv

theorem idOf (he : e.Uses outer lo hi) : (Expr.idOf e).Uses outer lo hi :=
  call (by simpa using he) _

theorem lowerCase (he : e.Uses outer lo hi) : (Expr.lowerCase e).Uses outer lo hi :=
  call (by simpa using he) _

theorem orEmpty (he : e.Uses outer lo hi) : (Expr.orEmpty e).Uses outer lo hi :=
  call (by simpa using ⟨he, text ""⟩) _

theorem ifElse {c y : Expr} (hc : c.Uses outer lo hi) (hy : y.Uses outer lo hi)
    (he : e.Uses outer lo hi) : (Expr.ifElse c y e).Uses outer lo hi := by
  intro closed v hv
  rw [Expr.mentions, List.mem_append, List.mem_append] at hv
  rcases hv with (hv | hv) | hv
  · exact hc closed v hv
  · exact hy closed v hv
  · exact he closed v hv

theorem binary (he : e.Uses outer lo hi) (hf : f.Uses outer lo hi) (op : Operator) :
    (Expr.binary e op f).Uses outer lo hi := by
  intro closed v hv
  rw [Expr.mentions, List.mem_append] at hv
  exact hv.elim (he closed v) (hf closed v)

theorem isIn (he : e.Uses outer lo hi) (hes : ∀ f ∈ es, f.Uses outer lo hi) :
    (Expr.isIn e es).Uses outer lo hi := by
  intro closed v hv
  rw [Expr.mentions, List.mem_append, mem_mentionsOfAll_iff] at hv
  rcases hv with hv | ⟨f, hf, hv⟩
  · exact he closed v hv
  · exact hes f hf closed v hv

/-- Expressions joined by an operator use what each of them does. -/
theorem joinWith (hes : ∀ e ∈ es, e.Uses outer lo hi) (op : Operator) (unit : Bool) :
    (Expr.joinWith op unit es).Uses outer lo hi := by
  have hfold (fs : List Expr) (e : Expr) (he : e.Uses outer lo hi)
      (hfs : ∀ f ∈ fs, f.Uses outer lo hi) :
      (fs.foldl (fun acc f => Expr.binary acc op f) e).Uses outer lo hi := by
    induction fs generalizing e with
    | nil => exact he
    | cons f fs ih =>
      rw [List.forall_mem_cons] at hfs
      exact ih (.binary e op f) (he.binary hfs.1 op) hfs.2
  cases es with
  | nil => exact .bool unit
  | cons e es =>
    rw [List.forall_mem_cons] at hes
    exact hfold es e hes.1 hes.2

/-- A group that can be met hides what it binds. -/
theorem holds (hg : g.Uses outer lo hi) : (Expr.holds g).Uses outer lo hi := by
  intro closed v hv
  rw [Expr.mentions, mem_outside_iff] at hv
  refine (hg closed v hv.1).imp_right fun hin => ?_
  cases closed with
  | false => exact ⟨rfl, hin⟩
  | true => exact absurd hin (hv.2 rfl)

/-- So does a selection, whose column may use what the group binds. -/
theorem select (hg : g.Uses outer lo hi) (he : e.Uses (outer ++ g.binds) lo hi)
    (limit : Option Nat) : (Expr.select (.mk [e] g [] limit)).Uses outer lo hi := by
  intro closed v hv
  rw [Expr.mentions, Select.mentions, mem_outside_iff] at hv
  obtain ⟨hv, hfree⟩ := hv
  simp only [mentionsOfAll, mentionsOfOrder, List.append_nil, List.mem_append] at hv
  rcases hv with hv | hv
  · have hin := he closed v hv
    rw [List.mem_append] at hin
    cases closed with
    | false =>
      rcases hin with (hin | hin) | hin
      · exact .inl hin
      · exact (hg.mem_of_mem_binds hin).imp_right fun hmade => ⟨rfl, hmade⟩
      · exact .inr hin
    | true =>
      rcases hin with (hin | hin) | hin
      · exact .inl hin
      · exact absurd hin (hfree rfl)
      · cases hin.1
  · refine (hg closed v hv).imp_right fun hin => ?_
    cases closed with
    | false => exact ⟨rfl, hin⟩
    | true => exact absurd hin (hfree rfl)

/-- What is collected may use what the group binds. -/
theorem collect (hg : g.Uses outer lo hi) (he : e.Uses (outer ++ g.binds) lo hi) (sep : Char) :
    (Query.collect e sep g).Uses outer lo hi := by
  refine orEmpty (select hg (fun closed v hv => ?_) none)
  rw [Expr.mentions] at hv
  exact he closed v hv

end Expr.Uses

/-! ## Expressions one after the other -/

/-- Each of the expressions uses what was made up behind the one in front of it. -/
def Apart (outer : List Variable) (lo hi : Nat) : List Expr → Prop
  | [] => lo ≤ hi
  | e :: es => ∃ mid, lo ≤ mid ∧ e.Uses outer lo mid ∧ Apart outer mid hi es

namespace Apart

theorem le (h : Apart outer lo hi es) : lo ≤ hi := by
  induction es generalizing lo with
  | nil => exact h
  | cons e es ih =>
    obtain ⟨mid, hle, -, hrest⟩ := h
    exact hle.trans (ih hrest)

theorem singleton (hle : lo ≤ hi) (he : e.Uses outer lo hi) : Apart outer lo hi [e] :=
  ⟨hi, hle, he, Nat.le_refl hi⟩

theorem append {mid : Nat} (hes : Apart outer lo mid es) (hfs : Apart outer mid hi fs) :
    Apart outer lo hi (es ++ fs) := by
  induction es generalizing lo with
  | nil =>
    cases fs with
    | nil => exact Nat.le_trans hes hfs
    | cons f fs =>
      obtain ⟨mid', hle, hf, hrest⟩ := hfs
      exact ⟨mid', Nat.le_trans hes hle, hf.mono (fun _ hv => hv) hes (Nat.le_refl _), hrest⟩
  | cons e es ih =>
    obtain ⟨mid', hle, he, hrest⟩ := hes
    exact ⟨mid', hle, he, ih hrest⟩

/-- Each of the expressions uses what was made up for all of them. -/
theorem uses_of_mem (h : Apart outer lo hi es) (he : e ∈ es) : e.Uses outer lo hi := by
  induction es generalizing lo with
  | nil => cases he
  | cons f es ih =>
    obtain ⟨mid, hle, hf, hrest⟩ := h
    rcases List.mem_cons.mp he with rfl | he
    · exact hf.mono (fun _ hv => hv) (Nat.le_refl lo) hrest.le
    · exact (ih hrest he).mono (fun _ hv => hv) hle (Nat.le_refl hi)

/-- Two of the expressions share no variable but those of `outer`. -/
theorem pairwise (h : Apart outer lo hi es) :
    es.Pairwise fun e f => ∀ v ∈ e.mentioned, v ∈ f.mentioned → v ∈ outer := by
  induction es generalizing lo with
  | nil => exact List.Pairwise.nil
  | cons e es ih =>
    obtain ⟨mid, -, he, hrest⟩ := h
    refine List.pairwise_cons.mpr ⟨fun f hf v hv hv' => ?_, ih hrest⟩
    rcases he false v hv with hin | ⟨-, hmade⟩
    · exact hin
    · rcases hrest.uses_of_mem hf false v hv' with hin | ⟨-, hmade'⟩
      · exact hin
      · exact (hmade.not_both (Nat.le_refl mid) hmade').elim

end Apart

end ContactGraph.Query
