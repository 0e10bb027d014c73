import ContactGraph.Proofs.Contact.Facts
import ContactGraph.Proofs.Result.CutOff
import ContactGraph.Proofs.Result.Types
import ContactGraph.Proofs.Result.Unique
import Mathlib.Logic.Relation

/-!
# Repeated rows

What a row tells of a contact is a list of facts (`factsOf`, `contactOf_eq_foldl_tell`), and a copy
of a row tells the facts that the row has told. They are known by then, whatever stood between, so
they add nothing but duplicates (`removeDuplicates_contactOf`). Nor does a copy bring an id that was
not there, so that a limit stops at the same row (`IsCutOff.repeatsRow`). So a result with repeated
rows gives the contacts that it gives without, in the same order and with the same details once
duplicates are removed (`gather_repeatedRows`).
-/

namespace ContactGraph.Result

open Query

/-- A row is put into a table once more, behind where it stands. -/
inductive RepeatsRow : Table → Table → Prop
  /-- The row is among those in front. -/
  | intro {front back : Table} {row : Row} (h : row ∈ front) :
      RepeatsRow (front ++ back) (front ++ row :: back)

/-- What has been read, each contact without its duplicates. -/
def Gathered.removeDuplicates (g : Gathered) : Gathered :=
  { g with contacts := g.contacts.map Contact.removeDuplicates }

variable {frame : Frame} {plan : Plan} {row : Row} {id : LocalId} {front back table table' : Table}
  {n : Nat}

/-! ## Facts of a row -/

/-- What the columns of a binding tell with a detail. -/
def factOf : Layout → Detail → Fact
  | .unique _ => .unique
  | .multi _ => .detail

/-- The relationships that a row tells of a contact. -/
def edgesOf (plan : Plan) (row : Row) (self : LocalId) : List Relationship :=
  match plan.relationships with
  | some columns =>
    (idsOf (row.text columns.groups)).map (Relationship.membership · self) ++
      match columns.members with
      | some column => (idsOf (row.text column)).map (Relationship.membership self)
      | none => []
  | none => []

/-- What a row tells of a contact, in order. -/
def factsOf (frame : Frame) (plan : Plan) (self : LocalId) (row : Row) : List Fact :=
  plan.bindings.flatMap (fun b => (detailsOf frame row b).map (factOf b.layout)) ++
    (freeDetailsOf frame plan row).map .detail ++ (edgesOf plan row self).map .relationship

theorem saveBy_eq_tell (layout : Layout) (c : Contact) (x : Detail) :
    saveBy layout c x = c.tell (factOf layout x) := by
  cases layout <;> rfl

theorem foldl_addBinding_eq (frame : Frame) (row : Row) (bindings : List Query.Binding)
    (c : Contact) : bindings.foldl (addBinding frame row) c =
      (bindings.flatMap fun b => (detailsOf frame row b).map (factOf b.layout)).foldl
        Contact.tell c := by
  simp only [List.foldl_flatMap, List.foldl_map]
  congr 1
  funext c b
  rw [addBinding_eq]
  congr 1
  funext c x
  exact saveBy_eq_tell b.layout c x

/-- A row adds what the bindings tell, then the free details, then the relationships. -/
theorem addRow_eq (frame : Frame) (plan : Plan) (row : Row) (c : Contact) :
    addRow frame plan row c = (edgesOf plan row c.localId).foldl Contact.relate
      ((freeDetailsOf frame plan row).foldl Contact.save
        (plan.bindings.foldl (addBinding frame row) c)) := by
  have hbound : (plan.bindings.foldl (addBinding frame row) c).localId = c.localId :=
    congrArg ContactId.number (foldl_id (addBinding_id frame row) plan.bindings c)
  have hfree : ((freeDetailsOf frame plan row).foldl Contact.save
      (plan.bindings.foldl (addBinding frame row) c)).localId = c.localId :=
    (congrArg ContactId.number (foldl_id Contact.save_id _ _)).trans hbound
  rw [← hfree]
  unfold addRow freeDetailsOf edgesOf
  cases plan.customColumn <;> cases plan.relationships <;> rfl

/-- A row adds the facts that it tells. -/
theorem addRow_eq_foldl_tell (frame : Frame) (plan : Plan) (row : Row) (c : Contact) :
    addRow frame plan row c = (factsOf frame plan c.localId row).foldl Contact.tell c := by
  rw [addRow_eq, foldl_addBinding_eq, factsOf, List.foldl_append, List.foldl_append, List.foldl_map,
    List.foldl_map]
  rfl

/-- The rows of a contact add the facts that they tell. -/
theorem contactOf_eq_foldl_tell (frame : Frame) (plan : Plan) (id : LocalId) (rows : Table) :
    contactOf frame plan id rows =
      (rows.flatMap (factsOf frame plan id)).foldl Contact.tell
        { id := ⟨plan.schema.type, id⟩ } := by
  induction rows using List.reverseRecOn with
  | nil => rfl
  | append_singleton rows row ih =>
    rw [contactOf_concat, addRow_eq_foldl_tell, contactOf_localId, ih, List.flatMap_append,
      List.flatMap_singleton, List.foldl_append]

/-! ## Copies of a row of a contact -/

section

variable (hfields : ∀ b ∈ plan.bindings, ∀ f ∈ b.detail.fields, f.IsReflexive)
  (hsettings : frame.settings.IsDoubleFree)
include hfields hsettings

/-- Details that a row tells equal themselves when no field has a number that does not. -/
theorem beq_self_of_mem_factsOf {x : Detail} (h : .detail x ∈ factsOf frame plan id row) :
    (x == x) = true := by
  simp only [factsOf, List.mem_append, List.mem_flatMap, List.mem_map] at h
  obtain (⟨b, hb, y, hy, hfact⟩ | ⟨y, hy, hfact⟩) | ⟨r, -, hfact⟩ := h
  · cases hl : b.layout with
    | unique l =>
      rw [hl] at hfact
      cases hfact
    | multi l =>
      rw [hl] at hfact
      cases hfact
      exact beq_self_of_mem_detailsOf (hfields b hb) hy
  · cases hfact
    exact beq_self_of_mem_freeDetailsOf hsettings hy
  · cases hfact

/-- A copy of a row tells a contact nothing but duplicates. -/
theorem removeDuplicates_contactOf {rows rows' : Table} (h : RepeatsRow rows rows') (id : LocalId) :
    (contactOf frame plan id rows').removeDuplicates =
      (contactOf frame plan id rows).removeDuplicates := by
  obtain @⟨front, back, row, hrow⟩ := h
  simp only [contactOf_eq_foldl_tell, List.flatMap_append, List.flatMap_cons, List.foldl_append]
  -- what the row tells is known from when it stood in front
  have hknown : ∀ f ∈ factsOf frame plan id row,
      ((front.flatMap (factsOf frame plan id)).foldl Contact.tell
        { id := ⟨plan.schema.type, id⟩ }).Knows f := fun f hf =>
    Contact.knows_foldl_tell _ (List.mem_flatMap.mpr ⟨row, hrow, hf⟩)
  exact Contact.removeDuplicates_foldl_tell_congr
    (Contact.removeDuplicates_foldl_tell hknown fun x hx =>
      beq_self_of_mem_factsOf hfields hsettings hx) _

end

/-! ## Copies of a row of a table -/

/-- Among the rows of one contact a row is repeated, or they are the same. -/
theorem RepeatsRow.rowsOf (h : RepeatsRow table table') (id : LocalId) :
    Relation.ReflGen RepeatsRow (rowsOf id table) (rowsOf id table') := by
  obtain @⟨front, back, row, hrow⟩ := h
  by_cases hid : row.id? idColumn = some id
  · have hfront : row ∈ Result.rowsOf id front :=
      List.mem_filter.mpr ⟨hrow, decide_eq_true hid⟩
    simpa [Result.rowsOf, hid] using Relation.ReflGen.single (RepeatsRow.intro hfront)
  · simpa [Result.rowsOf, hid] using Relation.ReflGen.refl

/-- A copy of a row brings no id. -/
theorem idsIn_repeat (hrow : row ∈ front) (back : Table) :
    idsIn (front ++ row :: back) = idsIn (front ++ back) := by
  cases hid : row.id? idColumn with
  | none => simp [idsIn, hid]
  | some id =>
    have hmem : ∃ r ∈ front, r.id? idColumn = some id := ⟨row, hrow, hid⟩
    simp [idsIn, hid, List.eraseDups_append, List.removeAll, hmem]

theorem isPrefix_idsIn (h : front <+: table) : idsIn front <+: idsIn table := by
  obtain ⟨back, rfl⟩ := h
  rw [idsIn, idsIn, List.filterMap_append, List.eraseDups_append]
  exact List.prefix_append ..

/-- A table has one longest beginning with no more ids than there may be. -/
theorem IsCutOff.eq {part part' : Table} (h : IsCutOff n table part) (h' : IsCutOff n table part') :
    part = part' := by
  have hle := h'.longest h.isPrefix h.length_le
  have hge := h.longest h'.isPrefix h'.length_le
  exact hle.eq_of_length (Nat.le_antisymm hle.length_le hge.length_le)

/-- With more ids than there may be in front, reading stops there, whatever comes behind. -/
theorem IsCutOff.of_append {part : Table} (h : IsCutOff n (front ++ back) part)
    (hmany : n < (idsIn front).length) (rest : Table) : IsCutOff n (front ++ rest) part := by
  have hshort : ∀ {rest longer : Table}, longer <+: front ++ rest → (idsIn longer).length ≤ n →
      longer <+: front := by
    intro rest longer hlonger hlength
    refine (List.prefix_or_prefix_of_prefix hlonger (List.prefix_append front rest)).elim id ?_
    intro hfront
    exact absurd ((isPrefix_idsIn hfront).length_le.trans hlength) (Nat.not_le.mpr hmany)
  exact {
    isPrefix := (hshort h.isPrefix h.length_le).trans (List.prefix_append ..)
    length_le := h.length_le
    longest := fun hlonger hlength =>
      h.longest ((hshort hlonger hlength).trans (List.prefix_append ..)) hlength }

/-- A limit stops reading at the same row when a row is repeated, before the copy or behind it. -/
theorem IsCutOff.repeatsRow {part : Table} (h : IsCutOff n table part)
    (hrows : RepeatsRow table table') :
    ∃ part', IsCutOff n table' part' ∧ Relation.ReflGen RepeatsRow part part' := by
  obtain @⟨front, back, row, hrow⟩ := hrows
  by_cases hmany : n < (idsIn front).length
  · exact ⟨part, h.of_append hmany _, .refl⟩
  · rw [Nat.not_lt] at hmany
    obtain ⟨read, rfl⟩ := h.longest (List.prefix_append front back) hmany
    refine ⟨front ++ row :: read, ?_, .single (.intro hrow)⟩
    have hread : read <+: back := (List.prefix_append_right_inj front).mp h.isPrefix
    have hcopy : (idsIn (front ++ [row])).length ≤ n := by
      rwa [idsIn_repeat hrow, List.append_nil]
    constructor
    · rw [List.prefix_append_right_inj, List.cons_prefix_cons]
      exact ⟨rfl, hread⟩
    · rw [idsIn_repeat hrow]
      exact h.length_le
    · intro longer hlonger hlength
      rw [List.append_cons] at hlonger ⊢
      rcases List.prefix_or_prefix_of_prefix hlonger (List.prefix_append (front ++ [row]) back) with
        hshort | ⟨more, rfl⟩
      · exact hshort.trans (List.prefix_append ..)
      · rw [List.prefix_append_right_inj] at hlonger ⊢
        rw [← List.append_cons, idsIn_repeat hrow] at hlength
        exact (List.prefix_append_right_inj front).mp
          (h.longest ((List.prefix_append_right_inj front).mpr hlonger) hlength)

/-- Reading a table with a repeated row comes to reading rows that are the same but for that. -/
theorem readRows_eq_told_of_repeatsRow (frame : Frame) (plan : Plan) (limit : Option Nat)
    (h : RepeatsRow table table') : ∃ part part', Relation.ReflGen RepeatsRow part part' ∧
      readRows frame plan limit {} table = told frame plan part ∧
      readRows frame plan limit {} table' = told frame plan part' := by
  cases limit with
  | none =>
    exact ⟨table, table', .single h, readRows_eq_told frame plan table,
      readRows_eq_told frame plan table'⟩
  | some n =>
    obtain ⟨part, hcut, hread⟩ := exists_isCutOff frame plan n table
    obtain ⟨part', hcut', hread'⟩ := exists_isCutOff frame plan n table'
    obtain ⟨rows, hrows, hrepeats⟩ := hcut.repeatsRow h
    exact ⟨part, part', hrows.eq hcut' ▸ hrepeats, hread, hread'⟩

section

variable (hfields : ∀ b ∈ plan.bindings, ∀ f ∈ b.detail.fields, f.IsReflexive)
  (hsettings : frame.settings.IsDoubleFree)
include hfields hsettings

/-- A table with a repeated row tells of the same contacts, and of each the same but for
duplicates. -/
theorem removeDuplicates_told (h : RepeatsRow table table') :
    (told frame plan table').removeDuplicates = (told frame plan table).removeDuplicates := by
  have hids : idsIn table' = idsIn table := by
    obtain ⟨hrow⟩ := h
    exact idsIn_repeat hrow _
  have hcontacts : (idsIn table).map (fun id =>
        (contactOf frame plan id (rowsOf id table')).removeDuplicates) =
      (idsIn table).map fun id => (contactOf frame plan id (rowsOf id table)).removeDuplicates := by
    refine List.map_congr_left fun id _ => ?_
    rcases (Relation.reflGen_iff ..).mp (h.rowsOf id) with heq | hrows
    · rw [heq]
    · exact removeDuplicates_contactOf hfields hsettings hrows id
  simpa [Gathered.removeDuplicates, told, hids, Function.comp_def] using hcontacts

/-- A repeated row changes nothing that is read but duplicates. -/
theorem removeDuplicates_gather (h : RepeatsRow table table') (limit : Option Nat)
    (canceled : Bool) : (gather frame plan limit canceled table').map Gathered.removeDuplicates =
      (gather frame plan limit canceled table).map Gathered.removeDuplicates := by
  have hempty : table'.isEmpty = table.isEmpty := by
    obtain @⟨front, back, row, hrow⟩ := h
    have hfront : front ≠ [] := List.ne_nil_of_mem hrow
    rw [Bool.eq_iff_iff]
    simp [hfront]
  obtain ⟨part, part', hparts, hread, hread'⟩ :=
    readRows_eq_told_of_repeatsRow frame plan limit h
  have hsame :
      (told frame plan part').removeDuplicates = (told frame plan part).removeDuplicates := by
    rcases (Relation.reflGen_iff ..).mp hparts with rfl | hrepeats
    · rfl
    · exact removeDuplicates_told hfields hsettings hrepeats
  rw [gather, gather, hempty, hread, hread']
  split
  · rfl
  · exact congrArg Except.ok hsame

end

/-- Rows that are repeated behind where they stand, any number of times, are harmless. Where no
field has a number that does not equal itself, a result with them gives the same contacts in the
same order, and each of them has the same details in the same order and the same relationships once
duplicates are removed. -/
theorem gather_repeatedRows {s : Scope} {request : Request}
    (hplan : Query.plan s request = .ok plan)
    (hschema : ∀ d ∈ s.schema.details, ∀ f ∈ d.fields, f.IsReflexive)
    (hsettings : frame.settings.IsDoubleFree)
    (hrows : Relation.ReflTransGen RepeatsRow table table') (limit : Option Nat) (canceled : Bool) :
    (gather frame plan limit canceled table').map Gathered.removeDuplicates =
      (gather frame plan limit canceled table).map Gathered.removeDuplicates := by
  have hfields : ∀ b ∈ plan.bindings, ∀ f ∈ b.detail.fields, f.IsReflexive := fun b hb =>
    hschema b.detail (layout_of_mem_bindings hplan hb).1
  induction hrows with
  | refl => rfl
  | tail _ hstep ih =>
    rw [removeDuplicates_gather hfields hsettings hstep limit canceled, ih]

/-- With both rows repeated, the pet comes twice and the contact is the same without it. -/
theorem gather_repeatedRows_zedOrAmy : ∃ p c, Query.plan nicknameScope {} = .ok p ∧
    contacts ⟨{}, {}⟩ p none false (zedOrAmy ++ zedOrAmy) = .ok [c] ∧
    c.details.map (·.name) = [Names.nickname, "Pet", "Pet"] ∧
    (gather ⟨{}, {}⟩ p none false (zedOrAmy ++ zedOrAmy)).map Gathered.removeDuplicates =
      (gather ⟨{}, {}⟩ p none false zedOrAmy).map Gathered.removeDuplicates := by
  have hfields : ∀ d ∈ nicknameScope.schema.details, ∀ f ∈ d.fields, f.IsReflexive := by
    simp only [nicknameScope, List.mem_singleton, forall_eq]
    exact ⟨by simp, fun _ h => by cases h⟩
  have hfirst : RepeatsRow zedOrAmy (zedOrAmy ++ [zedOrAmy[0]]) :=
    @RepeatsRow.intro zedOrAmy [] _ (List.getElem_mem _)
  have hsecond : RepeatsRow (zedOrAmy ++ [zedOrAmy[0]]) (zedOrAmy ++ zedOrAmy) :=
    @RepeatsRow.intro (zedOrAmy ++ [zedOrAmy[0]]) [] zedOrAmy[1] (by decide)
  obtain ⟨p, c, hp, hc, hnames⟩ : ∃ p c, Query.plan nicknameScope {} = .ok p ∧
      contacts ⟨{}, {}⟩ p none false (zedOrAmy ++ zedOrAmy) = .ok [c] ∧
      c.details.map (·.name) = [Names.nickname, "Pet", "Pet"] :=
    ⟨_, _, rfl, rfl, by decide +kernel⟩
  have hsettings : Settings.IsDoubleFree {} := fun _ _ h => by cases h
  exact ⟨p, c, hp, hc, hnames,
    gather_repeatedRows hp hfields hsettings (.tail (.single hfirst) hsecond) none false⟩

end ContactGraph.Result
