import ContactGraph.Proofs.Query.Ordering
import ContactGraph.Schema.Standard

/-!
# Refused requests

`Filter.Fault` lists what can be wrong with a leaf of a filter and the reason each is refused for. A
filter is refused for the first of its leaves that is at fault, from left to right and however deep
the leaves stand (`restriction_eq_error_iff`) : neither a union nor an intersection stops early. A
query for contacts is refused just when its filter is, and a query for ids also for an order that
the store cannot follow (`Scope.RefusesFaults`). A computed detail is in no store, so a leaf about
it is at fault, unless it is a range of a field that is not said to be computed as well
(`exists_restriction_eq_error`).
-/

namespace ContactGraph

open Query

/-! ## Leaves and their faults -/

mutual

/-- The conditions that a filter combines, from left to right. -/
def Filter.leaves : Filter → List Filter
  | .intersection filters => Filter.allLeaves filters
  | .union filters => Filter.allLeaves filters
  | filter => [filter]

/-- The conditions that filters combine, from left to right. -/
def Filter.allLeaves : List Filter → List Filter
  | [] => []
  | f :: fs => f.leaves ++ Filter.allLeaves fs

end

/-- What is wrong with asking for a field of a detail, or for any field. -/
inductive DetailDefinition.Fault (d : DetailDefinition) : Option String → Rejection → Prop where
  /-- The detail is computed. -/
  | computedDetail {field : Option String} (hd : d.computed = true) :
    d.Fault field (.computedDetail d.name)
  /-- The detail has no context. -/
  | noContext (hd : d.computed = false) (hcontext : d.hasContext = false) :
    d.Fault (some Names.context) (.noContext d.name)
  /-- The detail has no such field. -/
  | noField {name : String} (hd : d.computed = false) (hname : name ≠ Names.context)
    (hfield : d.field? name = none) : d.Fault (some name) (.noField d.name name)
  /-- The field is computed. -/
  | computedField {name : String} {f : FieldDefinition} (hd : d.computed = false)
    (hname : name ≠ Names.context) (hfield : d.field? name = some f) (hf : f.computed = true) :
    d.Fault (some name) (.computedField d.name f.name)

/-- What is wrong with a leaf of a filter. -/
inductive Filter.Fault (schema : Schema) : Filter → Rejection → Prop where
  /-- There are no ids. -/
  | noIds : Fault schema (.ids []) .noIds
  /-- The detail or the field cannot be asked for. -/
  | detail {filter : DetailFilter} {d : DetailDefinition} {r : Rejection}
    (htype : filter.detail ≠ Names.type) (hd : schema.detail? filter.detail = some d)
    (hfield : d.Fault filter.field r) : Fault schema (.detail filter) r
  /-- The detail has no field of the name whose values are kept in an order. -/
  | range {filter : RangeFilter} {d : DetailDefinition}
    (hd : schema.detail? filter.detail = some d)
    (hfield : ∀ f, d.field? filter.field = some f →
      f.computed = true ∨ f.subTypes ≠ none ∨ f.instances ≠ []) :
    Fault schema (.range filter) (.noRange filter.detail filter.field)
  /-- Removed contacts are not known. -/
  | removal {filter : ChangeFilter} (hevent : filter.event = .removed) :
    Fault schema (.change filter) .removalsUnknown

/-- What kind of error a leaf at fault leads to. -/
def Filter.faultKind : Filter → ErrorKind
  | .change _ => .notSupported
  | _ => .badArgument

theorem Filter.Fault.kind_error {schema : Schema} {leaf : Filter} {r : Rejection}
    (h : leaf.Fault schema r) : r.error.kind = leaf.faultKind := by
  cases h with
  | noIds => rfl
  | @detail filter d r htype hd hfield =>
    obtain ⟨detail, field, value, flags⟩ := filter
    cases hfield <;> rfl
  | range hd hfield => rfl
  | removal hevent => rfl

/-- The first of some leaves that is at fault is refused for the reason `r`. -/
def Filter.FirstFault (schema : Schema) (leaves : List Filter) (r : Rejection) : Prop :=
  ∃ front leaf back, leaves = front ++ leaf :: back ∧
    (∀ sound ∈ front, ∀ r', ¬ sound.Fault schema r') ∧ leaf.Fault schema r

namespace Filter

variable {schema : Schema} {r : Rejection}

theorem not_firstFault_nil : ¬ FirstFault schema [] r := by
  simp [FirstFault]

theorem firstFault_cons {leaf : Filter} {leaves : List Filter} :
    FirstFault schema (leaf :: leaves) r ↔
      leaf.Fault schema r ∨ (∀ r', ¬ leaf.Fault schema r') ∧ FirstFault schema leaves r := by
  constructor
  · rintro ⟨front, x, back, heq, hfront, hx⟩
    cases front with
    | nil =>
      obtain ⟨rfl, -⟩ := List.cons.inj heq
      exact .inl hx
    | cons y front =>
      obtain ⟨rfl, rfl⟩ := List.cons.inj heq
      rw [List.forall_mem_cons] at hfront
      exact .inr ⟨hfront.1, front, x, back, rfl, hfront.2, hx⟩
  · rintro (h | ⟨hleaf, front, x, back, rfl, hfront, hx⟩)
    · exact ⟨[], leaf, leaves, rfl, by simp, h⟩
    · exact ⟨leaf :: front, x, back, rfl, List.forall_mem_cons.mpr ⟨hleaf, hfront⟩, hx⟩

theorem firstFault_singleton {leaf : Filter} :
    FirstFault schema [leaf] r ↔ leaf.Fault schema r := by
  simp [firstFault_cons, not_firstFault_nil]

/-- Without a first leaf at fault there is none. -/
theorem forall_not_firstFault_iff {leaves : List Filter} :
    (∀ r, ¬ FirstFault schema leaves r) ↔ ∀ leaf ∈ leaves, ∀ r, ¬ leaf.Fault schema r := by
  induction leaves with
  | nil => simp [not_firstFault_nil]
  | cons leaf leaves ih =>
    rw [List.forall_mem_cons, ← ih]
    simp only [firstFault_cons, not_or, not_and, forall_and]
    exact and_congr_right fun hleaf => ⟨fun h r => h r hleaf, fun h r _ => h r⟩

theorem firstFault_append {front back : List Filter} :
    FirstFault schema (front ++ back) r ↔ FirstFault schema front r ∨
      (∀ r', ¬ FirstFault schema front r') ∧ FirstFault schema back r := by
  simp only [forall_not_firstFault_iff]
  induction front with
  | nil => simp [not_firstFault_nil]
  | cons leaf front ih =>
    rw [List.cons_append, firstFault_cons, ih, firstFault_cons, List.forall_mem_cons, and_or_left,
      or_assoc, and_assoc]

end Filter

namespace Query

variable {s : Scope} {n : Nat} {r : Rejection}

/-! ## Leaves -/

theorem definedMatch_eq_error_iff {d : DetailDefinition} {filter : DetailFilter} :
    definedMatch s d filter n = .error r ↔ d.Fault filter.field r := by
  obtain ⟨detail, field, value, flags⟩ := filter
  constructor
  · intro h
    cases hd : d.computed with
    | true =>
      obtain rfl : Rejection.computedDetail d.name = r := by
        simpa [definedMatch, reject, hd] using h
      exact .computedDetail hd
    | false =>
      cases field with
      | none => simp [definedMatch, accept, hd] at h
      | some name =>
        by_cases hname : name = Names.context
        · subst hname
          cases hcontext : d.hasContext with
          | true => simp [definedMatch, accept, hd, hcontext] at h
          | false =>
            obtain rfl : Rejection.noContext d.name = r := by
              simpa [definedMatch, reject, hd, hcontext] using h
            exact .noContext hd hcontext
        · cases hfield : d.field? name with
          | none =>
            obtain rfl : Rejection.noField d.name name = r := by
              simpa [definedMatch, reject, hd, hname, hfield] using h
            exact .noField hd hname hfield
          | some f =>
            cases hf : f.computed with
            | true =>
              obtain rfl : Rejection.computedField d.name f.name = r := by
                simpa [definedMatch, reject, hd, hname, hfield, hf] using h
              exact .computedField hd hname hfield hf
            | false => simp [definedMatch, accept, hd, hname, hfield, hf] at h
  · rintro (hd | ⟨hd, hcontext⟩ | ⟨hd, hname, hfield⟩ | ⟨hd, hname, hfield, hf⟩) <;>
      simp [definedMatch, reject, *]

theorem detailMatch_eq_error_iff {filter : DetailFilter} :
    detailMatch s filter n = .error r ↔ (Filter.detail filter).Fault s.schema r := by
  by_cases htype : filter.detail = Names.type
  · rw [detailMatch, if_pos htype]
    refine iff_of_false Attempt.pure_ne_error ?_
    rintro ⟨⟩
    contradiction
  cases hd : s.schema.detail? filter.detail with
  | none =>
    simp only [detailMatch, if_neg htype, hd]
    refine iff_of_false accept_ne_error ?_
    rintro ⟨⟩
    simp_all
  | some d =>
    simp only [detailMatch, if_neg htype, hd, definedMatch_eq_error_iff]
    refine ⟨.detail htype hd, ?_⟩
    rintro ⟨⟩
    simp_all

/-- A field has values in an order unless it is computed or stands for sub-types or instances. -/
theorem orderedField?_eq_none_iff {d : DetailDefinition} {name : String} :
    orderedField? d name = none ↔ ∀ f, d.field? name = some f →
      f.computed = true ∨ f.subTypes ≠ none ∨ f.instances ≠ [] := by
  simp [orderedField?, Option.filter_eq_none_iff, Decidable.or_iff_not_imp_left]

theorem rangeMatch_eq_error_iff {filter : RangeFilter} :
    rangeMatch s filter n = .error r ↔ (Filter.range filter).Fault s.schema r := by
  cases hd : s.schema.detail? filter.detail with
  | none =>
    simp only [rangeMatch, hd]
    refine iff_of_false accept_ne_error ?_
    rintro ⟨⟩
    simp_all
  | some d =>
    cases hf : orderedField? d filter.field with
    | none =>
      simp only [rangeMatch, hd, hf, reject_eq_error_iff]
      constructor
      · rintro rfl
        exact .range hd (orderedField?_eq_none_iff.mp hf)
      · rintro ⟨⟩
        rfl
    | some f =>
      simp only [rangeMatch, hd, hf]
      refine iff_of_false accept_ne_error ?_
      rintro (_ | _ | ⟨hd', hfield⟩)
      obtain rfl := Option.some.inj (hd.symm.trans hd')
      simp [orderedField?_eq_none_iff.mpr hfield] at hf

theorem changeMatch_eq_error_iff {filter : ChangeFilter} :
    changeMatch filter n = .error r ↔ (Filter.change filter).Fault s.schema r := by
  by_cases hevent : filter.event = .removed
  · simp only [changeMatch, hevent, reject_eq_error_iff]
    constructor
    · rintro rfl
      exact .removal hevent
    · rintro ⟨⟩
      rfl
  · refine iff_of_false ?_ (by rintro ⟨⟩; contradiction)
    cases h : filter.event <;> simp_all [changeMatch, accept]

/-! ## Filters -/

theorem exists_restriction_eq_ok_iff {filter : Filter}
    (h : ∀ r, restriction s filter n = .error r ↔ Filter.FirstFault s.schema filter.leaves r) :
    (∃ e m, restriction s filter n = .ok (e, m)) ↔
      ∀ r, ¬ Filter.FirstFault s.schema filter.leaves r := by
  simp only [← h]
  refine ⟨?_, Attempt.exists_eq_ok_of_ne_error⟩
  rintro ⟨e, m, hok⟩ r
  simp [hok]

mutual

/-- A filter is refused for the first of its leaves that is at fault, whatever variables are
already made up. -/
theorem restriction_eq_error_iff (s : Scope) : (filter : Filter) → (n : Nat) → (r : Rejection) →
    (restriction s filter n = .error r ↔ Filter.FirstFault s.schema filter.leaves r)
  | .everything, n, r =>
    (iff_of_false Attempt.pure_ne_error nofun).trans Filter.firstFault_singleton.symm
  | .nothing, n, r =>
    (iff_of_false Attempt.pure_ne_error nofun).trans Filter.firstFault_singleton.symm
  | .ids [], n, r => by
    refine Iff.trans ?_ Filter.firstFault_singleton.symm
    rw [restriction, reject_eq_error_iff]
    constructor
    · rintro rfl
      exact .noIds
    · rintro ⟨⟩
      rfl
  | .ids (id :: ids), n, r =>
    (iff_of_false Attempt.pure_ne_error nofun).trans Filter.firstFault_singleton.symm
  | .detail filter, n, r => detailMatch_eq_error_iff.trans Filter.firstFault_singleton.symm
  | .range filter, n, r => rangeMatch_eq_error_iff.trans Filter.firstFault_singleton.symm
  | .change filter, n, r => changeMatch_eq_error_iff.trans Filter.firstFault_singleton.symm
  | .relationship filter, n, r =>
    (iff_of_false accept_ne_error nofun).trans Filter.firstFault_singleton.symm
  | .intersection filters, n, r => by
    rw [restriction, Attempt.bind_eq_error_iff, Filter.leaves,
      ← restrictions_eq_error_iff s filters n r]
    simp [Attempt.pure_ne_error]
  | .union filters, n, r => by
    rw [restriction, Attempt.bind_eq_error_iff, Filter.leaves,
      ← restrictions_eq_error_iff s filters n r]
    simp [Attempt.pure_ne_error]

theorem restrictions_eq_error_iff (s : Scope) : (filters : List Filter) → (n : Nat) →
    (r : Rejection) → (restrictions s filters n = .error r ↔
      Filter.FirstFault s.schema (Filter.allLeaves filters) r)
  | [], n, r => iff_of_false Attempt.pure_ne_error Filter.not_firstFault_nil
  | f :: fs, n, r => by
    rw [restrictions, Attempt.bind_eq_error_iff, Filter.allLeaves, Filter.firstFault_append,
      restriction_eq_error_iff s f n r,
      ← exists_restriction_eq_ok_iff (restriction_eq_error_iff s f n)]
    simp only [Attempt.bind_eq_error_iff, Attempt.pure_ne_error, and_false, exists_false, or_false,
      restrictions_eq_error_iff s fs, exists_and_right]

end

/-! ## Requests -/

variable {request : Request}

/-- A query for contacts is made up to its end unless its filter is refused. -/
theorem planFrom_eq_error_iff : planFrom s request 0 = .error r ↔
    Filter.FirstFault s.schema request.filter.leaves r := by
  -- the columns in front of the filter and the order behind it are never refused
  simp only [planFrom, accept_bind, Attempt.bind_eq_error_iff, Attempt.pure_ne_error, and_false,
    exists_false, or_false, restriction_eq_error_iff]

/-- A query for contacts has columns. -/
theorem isEmpty_of_planFrom {p : Plan} {m : Nat} (h : planFrom s request 0 = .ok (p, m)) :
    p.select.isEmpty = false := by
  simp only [planFrom, Attempt.bind_eq_ok_iff, accept_eq_ok_iff, Attempt.pure_eq_ok_iff] at h
  obtain ⟨columns, _, -, custom, _, -, edges, _, -, e, _, -, order, _, -, hp⟩ := h
  obtain ⟨rfl, -⟩ := Prod.mk.inj hp
  rfl

theorem plan_eq_error_iff : plan s request = .error r ↔
    Filter.FirstFault s.schema request.filter.leaves r := by
  rw [← planFrom_eq_error_iff, plan]
  cases h : planFrom s request 0 with
  | error e => simp [bind, Except.bind]
  | ok q => simp [bind, Except.bind, isEmpty_of_planFrom h]

/-! ## What is refused -/

/-- Which requests are refused, and why. -/
structure Scope.RefusesFaults (s : Scope) (request : Request) : Prop where
  /-- A filter is refused for its first leaf at fault. -/
  filter (n : Nat) (r : Rejection) : restriction s request.filter n = .error r ↔
    Filter.FirstFault s.schema request.filter.leaves r
  /-- Every leaf at fault leads to the error of its kind. -/
  kind (leaf : Filter) (r : Rejection) (h : leaf.Fault s.schema r) :
    r.error.kind = leaf.faultKind
  /-- A query for contacts is refused when its filter is, for the same reason. -/
  contacts (n : Nat) (r : Rejection) : plan s request = .error r ↔
    restriction s request.filter n = .error r
  /-- A query for contacts is never empty. -/
  notEmpty : plan s request ≠ .error .emptyQuery
  /-- A query for ids is refused when its filter is, for the same reason, and otherwise for an order
  that the store cannot follow. -/
  ids (n : Nat) (r : Rejection) : idSelect s request = .error r ↔
    restriction s request.filter n = .error r ∨
      (∀ r', restriction s request.filter n ≠ .error r') ∧
        (∃ o ∈ request.sorting, ¬ o.IsEvaluable s.schema) ∧ r = .orderUnknown
  /-- Such an order is beyond what can be done. -/
  order_kind : Rejection.orderUnknown.error.kind = .notSupported

/-- Just the requests with a fault are refused. -/
theorem Scope.refusesFaults (s : Scope) (request : Request) : s.RefusesFaults request where
  filter := restriction_eq_error_iff s request.filter
  kind leaf r h := h.kind_error
  contacts n r := by rw [plan_eq_error_iff, restriction_eq_error_iff]
  notEmpty h := by
    obtain ⟨front, leaf, back, -, -, hfault⟩ := plan_eq_error_iff.mp h
    have hkind := hfault.kind_error
    cases leaf <;> simp [Rejection.error, Error.kind, Filter.faultKind] at hkind
  ids n r := by
    rw [idSelect_eq_error_iff,
      exists_restriction_eq_ok_iff (restriction_eq_error_iff s request.filter 0)]
    simp only [restriction_eq_error_iff, ne_eq]
  order_kind := rfl

end Query

/-! ## Computed details -/

namespace Filter

variable {schema : Schema} {d : DetailDefinition} {leaf : Filter}

theorem exists_firstFault_iff {leaves : List Filter} :
    (∃ r, FirstFault schema leaves r) ↔ ∃ leaf ∈ leaves, ∃ r, leaf.Fault schema r := by
  have h : (¬ ∀ r, ¬ FirstFault schema leaves r) ↔ ¬ ∀ leaf ∈ leaves, ∀ r, ¬ leaf.Fault schema r :=
    not_congr forall_not_firstFault_iff
  simpa using h

/-- A leaf that asks for a detail of a schema or for values in it. -/
inductive IsAbout (schema : Schema) (d : DetailDefinition) : Filter → Prop where
  /-- For the detail, a field or a value. -/
  | detail {filter : DetailFilter} (htype : filter.detail ≠ Names.type)
    (hd : schema.detail? filter.detail = some d) : IsAbout schema d (.detail filter)
  /-- For a range of values. -/
  | range {filter : RangeFilter} (hd : schema.detail? filter.detail = some d) :
    IsAbout schema d (.range filter)

/-- A leaf about a computed detail is at fault, but for the range of a field that is not computed
as well. -/
theorem IsAbout.exists_fault_iff (h : leaf.IsAbout schema d) (hcomputed : d.computed = true) :
    (∃ r, leaf.Fault schema r) ↔
      ∀ range, leaf = .range range → orderedField? d range.field = none := by
  cases h with
  | detail htype hd =>
    exact iff_of_true ⟨_, .detail htype hd (.computedDetail hcomputed)⟩ (by simp)
  | @range filter hd =>
    simp only [Filter.range.injEq, forall_eq', orderedField?_eq_none_iff]
    constructor
    · rintro ⟨r, hfault⟩
      obtain - | - | ⟨hd', hfield⟩ := hfault
      obtain rfl := Option.some.inj (hd.symm.trans hd')
      exact hfield
    · exact fun hfield => ⟨_, .range hd hfield⟩

end Filter

namespace Query

/-- A filter with a leaf about a computed detail is refused, except that a range asks only whether
its field is computed : one of a field that is not is accepted. -/
theorem exists_restriction_eq_error {s : Scope} {d : DetailDefinition} {filter leaf : Filter}
    (hleaf : leaf ∈ filter.leaves) (habout : leaf.IsAbout s.schema d)
    (hcomputed : d.computed = true) :
    ((∀ range, leaf = .range range → orderedField? d range.field = none) →
      ∀ n, ∃ r, restriction s filter n = .error r) ∧
    (∀ range f, leaf = .range range → orderedField? d range.field = some f →
      ∀ n, ∃ e m, restriction s leaf n = .ok (e, m)) := by
  constructor
  · intro hrange n
    have hfault := (habout.exists_fault_iff hcomputed).mpr hrange
    obtain ⟨r, hfirst⟩ := Filter.exists_firstFault_iff.mpr ⟨leaf, hleaf, hfault⟩
    exact ⟨r, (restriction_eq_error_iff s filter n r).mpr hfirst⟩
  · rintro range f rfl hf n
    have hsound : ∀ r, ¬ (Filter.range range).Fault s.schema r := by
      intro r hr
      have hnone := (habout.exists_fault_iff hcomputed).mp ⟨r, hr⟩ range rfl
      simp [hf] at hnone
    refine (exists_restriction_eq_ok_iff (restriction_eq_error_iff s _ n)).mpr fun r hfirst => ?_
    exact hsound r (Filter.firstFault_singleton.mp hfirst)

/-- The times since a point at which the presence over all accounts, which is computed, changed. -/
def presenceRange : RangeFilter :=
  { detail := Names.globalPresence, field := Names.timestamp, min := some (.integer 0) }

/-- Every contact, or those whose presence changed then. -/
def presenceFilter : Filter :=
  .union [.everything, .intersection [.range presenceRange]]

/-- A range of a computed field is refused, also next to a condition that always holds. -/
theorem exists_presenceFilter_eq_error :
    ∃ r, restriction ⟨Standard.person, {}, {}⟩ presenceFilter 0 = .error r := by
  have hleaf : .range presenceRange ∈ presenceFilter.leaves := by
    simp [presenceFilter, Filter.leaves, Filter.allLeaves]
  have habout : (Filter.range presenceRange).IsAbout Standard.person Standard.globalPresence :=
    .range rfl
  refine (exists_restriction_eq_error (s := ⟨Standard.person, {}, {}⟩) hleaf habout rfl).1 ?_ 0
  rintro range ⟨⟩
  rfl

/-- A computed detail with a field that is not computed itself. -/
def score : DetailDefinition :=
  { DetailDefinition.ofComputed "Score" [] with
    fields := [{ name := "Points", type := .integer, chain := [{ iri := "urn:points" }] }] }

/-- Persons with a score. -/
def scoreSchema : Schema :=
  { type := .person, classes := ["urn:person"], details := [score] }

/-- Scores from 3 on. -/
def scoreFilter : Filter :=
  .range { detail := "Score", field := "Points", min := some (.integer 3) }

/-- The schema is accepted, and a range of a computed detail on top of it. -/
theorem not_refused_scoreFilter : scoreSchema.check = .ok () ∧ score.computed = true ∧
    scoreFilter.IsAbout scoreSchema score ∧
    ¬ ∃ r, restriction ⟨scoreSchema, {}, {}⟩ scoreFilter 0 = .error r := by
  refine ⟨rfl, rfl, .range rfl, ?_⟩
  rintro ⟨r, hr⟩
  exact absurd hr nofun

end Query

end ContactGraph
