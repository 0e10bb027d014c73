import ContactGraph.Proofs.Query.Walk
import ContactGraph.Proofs.Result.Fields
import ContactGraph.Schema.Standard
import Mathlib.Data.List.Forall2

/-!
# Ways to sub-types

A sub-type that is kept by property is reached over a property of its own. A condition on the
sub-type asks whether there is such a way from the contact, and the column of the sub-type collects
what the way leads to. `hopsFrom` reads a way back from the patterns it became. Both ways end in the
property of the sub-type; they are the same for a unique detail, and for one that can be many as
long as the field for the sub-type has no chain of its own (`exists_hasWays`).
-/

namespace ContactGraph.Query

/-! ## Ways -/

/-- One step of a way through the store. -/
structure Hop where
  /-- The property. -/
  iri : Iri
  /-- Whether it is walked from object to subject. -/
  inverse : Bool
  deriving DecidableEq, Repr

/-- The step of a chain. -/
def hop (p : Property) : Hop :=
  ⟨p.iri, p.inverse⟩

/-- The way that patterns go from a variable on, one edge after the other. -/
def hopsFrom : Variable → Group → Option (List Hop)
  | _, [] => some []
  | start, .triple (.var subject) iri (.var object) :: rest =>
    if subject = start then (hopsFrom object rest).map (⟨iri, false⟩ :: ·)
    else if object = start then (hopsFrom subject rest).map (⟨iri, true⟩ :: ·)
    else none
  | _, _ :: _ => none

/-- A walked chain goes the way of its steps. -/
theorem hopsFrom_walk {start : Variable} {n : Nat} (hstart : ∀ k, start = .numbered k → k ≤ n)
    (chain : List Property) :
    hopsFrom start (walk start chain n).1.group = some (chain.map hop) := by
  induction chain generalizing start n with
  | nil => rfl
  | cons p ps ih =>
    have hnext : Variable.numbered (n + 1) ≠ start := by
      intro h
      have := hstart (n + 1) h.symm
      omega
    have hrest : hopsFrom (.numbered (n + 1)) (walk (.numbered (n + 1)) ps (n + 1)).1.group =
        some (ps.map hop) := ih (by simp)
    cases hp : p.inverse <;> simp [step, edge, hopsFrom, hop, hp, hnext, hrest]

/-- The way of a chain whose last step goes over another property. -/
def wayOver (iri : Iri) (chain : List Property) : List Hop :=
  (lastOver iri chain).map hop

/-- What stands in front of the last step stays, and the last step keeps its direction. -/
theorem wayOver_concat (iri : Iri) (front : List Property) (p : Property) :
    wayOver iri (front ++ [p]) = front.map hop ++ [⟨iri, p.inverse⟩] := by
  induction front with
  | nil => rfl
  | cons q front ih =>
    obtain ⟨r, rest, hrest⟩ := List.exists_cons_of_ne_nil (l := front ++ [p]) (by simp)
    rw [List.cons_append, List.map_cons, List.cons_append, ← ih, hrest]
    rfl

theorem wayOver_append (iri : Iri) (xs : List Property) {ys : List Property} (h : ys ≠ []) :
    wayOver iri (xs ++ ys) = xs.map hop ++ wayOver iri ys := by
  obtain ⟨front, p, rfl⟩ := (List.eq_nil_or_concat' ys).resolve_left h
  rw [← List.append_assoc, wayOver_concat, wayOver_concat, List.map_append, List.append_assoc]

theorem length_wayOver (iri : Iri) (chain : List Property) :
    (wayOver iri chain).length = chain.length := by
  rcases List.eq_nil_or_concat' chain with rfl | ⟨front, p, rfl⟩
  · rfl
  · simp [wayOver_concat]

/-- The last step goes over the property. -/
theorem getLast?_wayOver (iri : Iri) {chain : List Property} (h : chain ≠ []) :
    (wayOver iri chain).getLast?.map (·.iri) = some iri := by
  obtain ⟨front, p, rfl⟩ := (List.eq_nil_or_concat' chain).resolve_left h
  simp [wayOver_concat]

/-- The expression asks whether a way can be gone from the contact. -/
def Expr.Asks (e : Expr) (way : List Hop) : Prop :=
  ∃ g, e = .holds g ∧ hopsFrom contactVar g = some way

/-- The column of a detail collects what a way leads to, from the contact or its affiliation. -/
def Expr.Collects (d : DetailDefinition) (e : Expr) (way : List Hop) : Prop :=
  ∃ value sep g, e = guarded d (collect value sep g) ∧ hopsFrom (startOf d) g = some way

/-- The columns of sub-types. -/
def Layout.subTypeColumns : Layout → List SubTypeColumn
  | .unique l => l.subTypeColumns
  | .multi l => l.subTypeColumns

variable {d : DetailDefinition} {f : FieldDefinition} {types : List Labelled} {i n : Nat}

/-! ## Conditions -/

/-- The steps in front of the chain of a detail. -/
def contextSteps (d : DetailDefinition) : List Property :=
  if d.hasContext then [DetailDefinition.affiliationStep] else []

theorem fullChain_eq (d : DetailDefinition) : d.fullChain = contextSteps d ++ d.chain := by
  unfold DetailDefinition.fullChain contextSteps
  split <;> rfl

theorem forall₂_propertyMatches : List.Forall₂
    (fun t e => Expr.Asks e (wayOver t.iri (d.fullChain ++ f.chain))) types
    (propertyMatches d f types n).1 := by
  induction types generalizing n with
  | nil => exact .nil
  | cons t ts ih =>
    have hstart : ∀ k, contactVar = .numbered k → k ≤ n := by simp [contactVar]
    exact .cons ⟨_, rfl, hopsFrom_walk hstart _⟩ ih

/-! ## Columns -/

/-- The chain whose last step is changed for the column of a sub-type. -/
def columnChain (d : DetailDefinition) (f : FieldDefinition) : List Property :=
  if d.unique then d.chain ++ f.chain else d.chain

/-- A column starts at the contact or at its affiliation, which no chain makes up. -/
theorem hopsFrom_walk_startOf (chain : List Property) :
    hopsFrom (startOf d) (walk (startOf d) chain n).1.group = some (chain.map hop) := by
  refine hopsFrom_walk (fun k h => ?_) chain
  unfold startOf at h
  split at h <;> cases h

theorem forall₂_uniqueSubTypes : List.Forall₂
    (fun t e => Expr.Collects d e (wayOver t.iri (d.chain ++ f.chain))) types
    (uniqueSubTypes d f types n).1 := by
  induction types generalizing n with
  | nil => exact .nil
  | cons t ts ih => exact .cons ⟨_, _, _, rfl, hopsFrom_walk_startOf _⟩ ih

theorem forall₂_multiSubTypes (tokens : List Token) : List.Forall₂
    (fun t e => Expr.Collects d e (wayOver t.iri d.chain)) types
    (multiSubTypes d tokens types n).1 := by
  induction types generalizing n with
  | nil => exact .nil
  | cons t ts ih => exact .cons ⟨_, _, _, rfl, hopsFrom_walk_startOf _⟩ ih

/-- The columns of the sub-types of a unique detail stand behind those of its fields. -/
theorem exists_subTypes_uniqueColumns (first n : Nat)
    (htypes : d.propertySubTypes = some (i, types)) :
    ∃ front m back, (uniqueColumns d first n).1.1 =
        front ++ (uniqueSubTypes d (d.fieldAt i) types m).1 ++ back ∧
      (uniqueColumns d first n).1.2.subTypeColumns =
        subTypeColumns (first + front.length) types := by
  unfold uniqueColumns
  rw [htypes]
  refine ⟨_, _, _, rfl, ?_⟩
  rw [List.length_map]
  exact congrArg (fun k => subTypeColumns (first + k) types) (length_slotsOf first _)

/-- The columns of the sub-types of a detail that can be many stand behind that of all instances. -/
theorem exists_subTypes_multiColumns (first n : Nat)
    (htypes : d.propertySubTypes = some (i, types)) :
    ∃ main m, (multiColumns d first n).1.1 =
        [main] ++ (multiSubTypes d (tokensOf d) types m).1 ++ [] ∧
      (multiColumns d first n).1.2.subTypeColumns = subTypeColumns (first + 1) types := by
  unfold multiColumns
  rw [htypes]
  exact ⟨_, _, (List.append_nil _).symm, rfl⟩

/-- The columns of the sub-types stand next to each other. -/
theorem exists_subTypes_detailColumns (first n : Nat)
    (htypes : d.propertySubTypes = some (i, types)) :
    ∃ front es back, (detailColumns d first n).1.1 = front ++ es ++ back ∧
      (detailColumns d first n).1.2.subTypeColumns =
        Query.subTypeColumns (first + front.length) types ∧
      List.Forall₂ (fun t e => Expr.Collects d e
        (wayOver t.iri (columnChain d (d.fieldAt i)))) types es := by
  unfold detailColumns columnChain
  cases d.unique with
  | true =>
    obtain ⟨front, m, back, hes, hlayout⟩ := exists_subTypes_uniqueColumns first n htypes
    exact ⟨front, _, back, hes, hlayout, forall₂_uniqueSubTypes⟩
  | false =>
    obtain ⟨main, m, hes, hlayout⟩ := exists_subTypes_multiColumns first n htypes
    exact ⟨[main], _, [], hes, hlayout, forall₂_multiSubTypes (tokensOf d)⟩

/-- What stands at a place of the columns of the sub-types. -/
theorem exists_subTypeColumn (first n : Nat) (htypes : d.propertySubTypes = some (i, types))
    {k : Nat} {t : Labelled} (ht : types[k]? = some t) : ∃ c e,
      (detailColumns d first n).1.2.subTypeColumns[k]? = some c ∧ c.label = t.label ∧
        first ≤ c.column ∧ (detailColumns d first n).1.1[c.column - first]? = some e ∧
        Expr.Collects d e (wayOver t.iri (columnChain d (d.fieldAt i))) := by
  obtain ⟨front, es, back, hes, hlayout, hall⟩ := exists_subTypes_detailColumns first n htypes
  obtain ⟨hk, rfl⟩ := List.getElem?_eq_some_iff.mp ht
  have hk' : k < es.length := hall.length_eq ▸ hk
  have hplace : first + front.length + k - first = front.length + k := by omega
  refine ⟨⟨first + front.length + k, types[k].label⟩, es[k], ?_, rfl, ?_, ?_, hall.get hk hk'⟩
  · simp [hlayout, Query.subTypeColumns, hk]
  · exact Nat.le_add_right_of_le (Nat.le_add_right first front.length)
  · rw [hes, hplace, List.append_assoc, List.getElem?_append_right (Nat.le_add_right _ _),
      Nat.add_sub_cancel_left, List.getElem?_append_left hk', List.getElem?_eq_getElem hk']

/-! ## Both ways -/

/-- In a valid schema the column of a sub-type has a step to change. -/
theorem columnChain_ne_nil {schema : Schema} (hcheck : schema.check = .ok ())
    (hd : d ∈ schema.details) (hcomputed : d.computed = false)
    (htypes : d.propertySubTypes = some (i, types)) : columnChain d (d.fieldAt i) ≠ [] := by
  obtain ⟨hf, hsubTypes⟩ := DetailDefinition.fieldAt_of_propertySubTypes htypes
  have hfault : d.fault? = none := by
    unfold Schema.check at hcheck
    split at hcheck
    · cases hcheck
    · rename_i hnone
      exact List.findSome?_eq_none_iff.mp hnone d hd
  unfold DetailDefinition.fault? at hfault
  unfold columnChain
  split at hfault
  · have hfield := List.findSome?_eq_none_iff.mp hfault _ hf
    simp_all [DetailDefinition.uniqueFieldFault?]
  · simp_all

/-- The chains differ by that of the field for the sub-type, unless the detail is unique. -/
theorem wayOver_columnChain_iff (iri : Iri) :
    wayOver iri (d.chain ++ f.chain) = wayOver iri (columnChain d f) ↔
      d.unique = true ∨ f.chain = [] := by
  unfold columnChain
  cases d.unique with
  | true => simp
  | false =>
    simp only [Bool.false_eq_true, if_false, false_or]
    constructor
    · intro h
      simpa [length_wayOver] using congrArg List.length h
    · intro h
      rw [h, List.append_nil]

/-- The ways to the sub-types of a detail, those that conditions ask for and those that columns
collect. -/
structure HasWays (d : DetailDefinition) (i : Nat) (types : List Labelled)
    (condition column : Labelled → List Hop) : Prop where
  /-- A condition asks for the ways to the sub-types that match. -/
  asks (value : Value) (flags : MatchFlags) (n : Nat) : ∃ es,
    (subTypeMatch d (d.fieldAt i) (.byProperty types) value flags n).1 = Expr.any es ∧
      List.Forall₂ (fun t e => Expr.Asks e (condition t)) (selectedTypes types value flags) es
  /-- Each sub-type has a column that collects what its way leads to. -/
  collects (first n k : Nat) (t : Labelled) (ht : types[k]? = some t) : ∃ c e,
    (detailColumns d first n).1.2.subTypeColumns[k]? = some c ∧ c.label = t.label ∧
      first ≤ c.column ∧ (detailColumns d first n).1.1[c.column - first]? = some e ∧
      Expr.Collects d e (column t)
  /-- Both ways end in the property of the sub-type. -/
  ends (t : Labelled) : (condition t).getLast?.map (·.iri) = some t.iri ∧
    (column t).getLast?.map (·.iri) = some t.iri

/-- A condition on a sub-type and the column of the sub-type go the same way, but for the step to
the affiliation in front, unless the detail can be many and its field for the sub-type has a chain.
-/
theorem exists_hasWays {schema : Schema} (hcheck : schema.check = .ok ())
    (hd : d ∈ schema.details) (hcomputed : d.computed = false)
    (htypes : d.propertySubTypes = some (i, types)) :
    ∃ condition column, HasWays d i types condition column ∧
      ∀ t, condition t = (contextSteps d).map hop ++ column t ↔
        d.unique = true ∨ (d.fieldAt i).chain = [] := by
  have hcolumn := columnChain_ne_nil hcheck hd hcomputed htypes
  have hne : d.chain ++ (d.fieldAt i).chain ≠ [] := by
    unfold columnChain at hcolumn
    split at hcolumn
    · exact hcolumn
    · exact List.append_ne_nil_of_left_ne_nil hcolumn _
  have hsplit : d.fullChain ++ (d.fieldAt i).chain =
      contextSteps d ++ (d.chain ++ (d.fieldAt i).chain) := by
    rw [fullChain_eq, List.append_assoc]
  refine ⟨fun t => wayOver t.iri (d.fullChain ++ (d.fieldAt i).chain),
    fun t => wayOver t.iri (columnChain d (d.fieldAt i)), ⟨?_, ?_, ?_⟩, fun t => ?_⟩
  · exact fun value flags n => ⟨_, rfl, forall₂_propertyMatches⟩
  · exact fun first n k t ht => exists_subTypeColumn first n htypes ht
  · refine fun t => ⟨getLast?_wayOver t.iri ?_, getLast?_wayOver t.iri hcolumn⟩
    rw [hsplit]
    exact List.append_ne_nil_of_right_ne_nil _ hne
  · dsimp only
    rw [hsplit, wayOver_append _ _ hne, List.append_cancel_left_eq, wayOver_columnChain_iff]

/-- Conditions on home pages and blogs go the way of their columns, behind the affiliation. -/
theorem exists_hasWays_url : ∃ condition column,
    HasWays Standard.url 1
      [⟨Vocabulary.Nco.websiteUrl, "HomePage"⟩, ⟨Vocabulary.Nco.blogUrl, "Blog"⟩]
      condition column ∧
    ∀ t, condition t = ⟨Vocabulary.Nco.hasAffiliation, false⟩ :: column t := by
  have hcheck : Standard.person.check = .ok () := rfl
  have hurl : Standard.url ∈ Standard.person.details := List.mem_of_getElem? (i := 5) rfl
  obtain ⟨condition, column, hways, hsame⟩ := exists_hasWays hcheck hurl rfl rfl
  exact ⟨condition, column, hways, fun t => (hsame t).mpr (.inr rfl)⟩

/-- Sites, reached over one property from the contact, with a kind behind another one. -/
def site : DetailDefinition :=
  { DetailDefinition.ofMany "Site" with
    chain := [{ iri := "urn:site" }]
    fields := [
      { name := "Address", type := .text },
      { name := "Kind", type := .text, chain := [{ iri := "urn:kind" }]
        subTypes := some (.byProperty [⟨"urn:home", "Home"⟩]) }] }

/-- The schema is accepted, but the condition on home sites asks for two steps and the column of
home sites collects after one. -/
theorem asks_ne_collects_site :
    ({ type := .person, details := [site] } : Schema).check = .ok () ∧ site.computed = false ∧
      site.propertySubTypes = some (1, [⟨"urn:home", "Home"⟩]) ∧
      (∃ e, (subTypeMatch site (site.fieldAt 1) (.byProperty [⟨"urn:home", "Home"⟩])
          (.text "Home") ⟨.exactly, true⟩ 0).1 = Expr.any [e] ∧
        Expr.Asks e [⟨"urn:site", false⟩, ⟨"urn:home", false⟩]) ∧
      ∃ e, (detailColumns site 4 0).1.2.subTypeColumns = [⟨5, "Home"⟩] ∧
        (detailColumns site 4 0).1.1[1]? = some e ∧ Expr.Collects site e [⟨"urn:home", false⟩] :=
  ⟨rfl, rfl, rfl, ⟨_, rfl, _, rfl, rfl⟩, _, rfl, rfl, _, _, _, rfl, rfl⟩

end ContactGraph.Query
