import ContactGraph.Proofs.Query.Hints
import ContactGraph.Proofs.Result.Repeated

/-!
# Relationships from results

A contact has the relationships that its rows tell, each once and in the order in which they are
told first (`relationships_contactOf`). A row tells one for each id in its cells : from each group
in the cell of groups to the contact, and then, for groups alone, from the contact to each member in
the cell of members (`mem_edgesOf_iff`); an item that is no id tells none, and changes nothing for
the others (`idsOf_join_of_forall`). `exists_related` says so of every query with columns of
relationships, wherever a limit stops reading; a query without them gives no relationships at all.
-/

namespace ContactGraph

/-- The relationship that a fact is about. -/
def Fact.relationship? : Fact → Option Relationship
  | .relationship r => some r
  | _ => none

namespace Contact

variable {c : Contact} {known : List Relationship}

/-- A relationship comes last among those that are left, unless it is there. -/
theorem relationships_relate (h : c.relationships = known.eraseDups) (r : Relationship) :
    (c.relate r).relationships = (known ++ [r]).eraseDups := by
  have hmem : c.relationships.contains r = true ↔ r ∈ known := by
    rw [h, List.contains_iff_mem, List.mem_eraseDups]
  rw [eraseDups_concat, relate]
  by_cases hr : r ∈ known
  · rw [if_pos (hmem.mpr hr), if_pos hr, h]
  · rw [if_neg (mt hmem.mp hr), if_neg hr, h]

/-- Of the facts told only relationships add to those that are there. -/
theorem relationships_foldl_tell (h : c.relationships = known.eraseDups) (fs : List Fact) :
    (fs.foldl tell c).relationships = (known ++ fs.filterMap Fact.relationship?).eraseDups := by
  induction fs generalizing c known with
  | nil => rwa [List.filterMap_nil, List.append_nil]
  | cons f fs ih =>
    cases f with
    | detail d => exact ih (c := c.save d) h
    | unique d =>
      refine ih (c := c.tell (.unique d)) ?_
      rw [← h, tell, getD_saveUnique]
      split <;> rfl
    | relationship r =>
      have hcons : (Fact.relationship r :: fs).filterMap Fact.relationship? =
          r :: fs.filterMap Fact.relationship? := rfl
      rw [hcons, List.append_cons]
      exact ih (c := c.relate r) (relationships_relate h r)

end Contact

namespace Result

open Query

variable {frame : Frame} {plan : Plan} {row : Row} {rows : Table} {id : LocalId}
  {columns : RelationshipColumns}

/-! ## Ids in cells -/

/-- The ids in a cell are those of its items that can be read as one. -/
theorem mem_idsOf_iff {raw : String} :
    id ∈ idsOf raw ↔ ∃ item ∈ Packed.listItems raw, Number.word? item.toList = some id :=
  List.mem_filterMap

/-- The ids in joined texts are those in each of them. -/
theorem idsOf_join (texts : List String) :
    idsOf (Packed.join Packed.list texts) = texts.flatMap idsOf := by
  rw [idsOf, Packed.listItems, Packed.items_join_flatMap, List.filterMap_flatMap]
  rfl

/-- A text whose items are no ids changes nothing among others. -/
theorem idsOf_join_of_forall {text : String}
    (h : ∀ item ∈ Packed.listItems text, Number.word? item.toList = none)
    (front back : List String) :
    idsOf (Packed.join Packed.list (front ++ text :: back)) =
      idsOf (Packed.join Packed.list (front ++ back)) := by
  have hnone : idsOf text = [] := List.filterMap_eq_nil_iff.mpr h
  rw [idsOf_join, idsOf_join, List.flatMap_append, List.flatMap_append, List.flatMap_cons, hnone,
    List.nil_append]

/-! ## Edges of rows -/

/-- The edges that the cells of a row name for the contact `self`. -/
inductive NamesEdge (columns : RelationshipColumns) (row : Row) (self : LocalId) :
    Relationship → Prop
  /-- The cell of groups has the id of a group. -/
  | group {item : String} {g : LocalId} (hitem : item ∈ Packed.listItems (row.text columns.groups))
      (hid : Number.word? item.toList = some g) : NamesEdge columns row self (.membership g self)
  /-- The cell of members has the id of a member. -/
  | member {column : Nat} {item : String} {m : LocalId} (hcolumn : columns.members = some column)
      (hitem : item ∈ Packed.listItems (row.text column))
      (hid : Number.word? item.toList = some m) : NamesEdge columns row self (.membership self m)

theorem edgesOf_of_none (h : plan.relationships = none) (row : Row) (self : LocalId) :
    edgesOf plan row self = [] := by
  rw [edgesOf, h]

/-- The edges that a row tells are those that its cells name. -/
theorem mem_edgesOf_iff (h : plan.relationships = some columns) {self : LocalId}
    {r : Relationship} : r ∈ edgesOf plan row self ↔ NamesEdge columns row self r := by
  rw [edgesOf, h]
  dsimp only
  rw [List.mem_append]
  constructor
  · rintro (hr | hr)
    · obtain ⟨g, hg, rfl⟩ := List.mem_map.mp hr
      obtain ⟨item, hitem, hid⟩ := mem_idsOf_iff.mp hg
      exact .group hitem hid
    · cases hcolumn : columns.members with
      | none => simp [hcolumn] at hr
      | some column =>
        rw [hcolumn] at hr
        obtain ⟨m, hm, rfl⟩ := List.mem_map.mp hr
        obtain ⟨item, hitem, hid⟩ := mem_idsOf_iff.mp hm
        exact .member hcolumn hitem hid
  · rintro (⟨hitem, hid⟩ | ⟨hcolumn, hitem, hid⟩)
    · exact .inl (List.mem_map_of_mem (mem_idsOf_iff.mpr ⟨_, hitem, hid⟩))
    · rw [hcolumn]
      exact .inr (List.mem_map_of_mem (mem_idsOf_iff.mpr ⟨_, hitem, hid⟩))

theorem filterMap_relationship?_factsOf (frame : Frame) (plan : Plan) (self : LocalId) (row : Row) :
    (factsOf frame plan self row).filterMap Fact.relationship? = edgesOf plan row self := by
  have hbindings : (plan.bindings.flatMap fun b =>
      (detailsOf frame row b).map (factOf b.layout)).filterMap Fact.relationship? = [] := by
    refine List.filterMap_eq_nil_iff.mpr fun f hf => ?_
    obtain ⟨b, -, hf⟩ := List.mem_flatMap.mp hf
    obtain ⟨x, -, rfl⟩ := List.mem_map.mp hf
    cases b.layout <;> rfl
  have hfree : ((freeDetailsOf frame plan row).map Fact.detail).filterMap Fact.relationship? =
      [] := by
    refine List.filterMap_eq_nil_iff.mpr fun f hf => ?_
    obtain ⟨x, -, rfl⟩ := List.mem_map.mp hf
    rfl
  have hedges : ((edgesOf plan row self).map Fact.relationship).filterMap Fact.relationship? =
      edgesOf plan row self := by
    rw [List.filterMap_map]
    exact List.filterMap_some
  rw [factsOf, List.filterMap_append, List.filterMap_append, hbindings, hfree, hedges]
  rfl

/-! ## Relationships of contacts -/

/-- The relationships of a contact are the edges that its rows tell. -/
theorem relationships_contactOf (frame : Frame) (plan : Plan) (id : LocalId) (rows : Table) :
    (contactOf frame plan id rows).relationships =
      (rows.flatMap fun row => edgesOf plan row id).eraseDups := by
  have hnone : Contact.relationships { id := ⟨plan.schema.type, id⟩ } = [].eraseDups := rfl
  rw [contactOf_eq_foldl_tell, Contact.relationships_foldl_tell hnone, List.nil_append,
    List.filterMap_flatMap]
  simp only [filterMap_relationship?_factsOf]

/-- A contact has the relationships that the cells of its rows name. -/
structure Related (plan : Plan) (columns : RelationshipColumns) (rows : Table) (c : Contact) :
    Prop where
  /-- Those of the first row come first, and in each row those to groups before those to members. -/
  relationships_eq :
    c.relationships = (rows.flatMap fun row => edgesOf plan row c.localId).eraseDups
  /-- No relationship comes twice. -/
  nodup : c.relationships.Nodup
  /-- There is one for each id in the cells, and no other. -/
  mem_iff (r : Relationship) :
    r ∈ c.relationships ↔ ∃ row ∈ rows, NamesEdge columns row c.localId r

theorem related_contactOf (h : plan.relationships = some columns) (frame : Frame) (id : LocalId)
    (rows : Table) : Related plan columns rows (contactOf frame plan id rows) := by
  have hlocal := contactOf_localId frame plan id rows
  have hrelationships := relationships_contactOf frame plan id rows
  constructor
  · rw [hrelationships, hlocal]
  · rw [hrelationships]
    exact nodup_eraseDups _
  · intro r
    simp only [hrelationships, hlocal, List.mem_eraseDups, List.mem_flatMap, mem_edgesOf_iff h]

/-- Relationships are exactly what the cells name. A query has columns of relationships when they
are wanted, of members for groups alone, and every contact that it gives has the relationships of
the rows of its id that are read, in their order and each once. Items of cells that are no ids
change nothing, and without the columns no contact has any relationships. -/
theorem exists_related {s : Scope} {request : Request} {p : Plan}
    (hplan : Query.plan s request = .ok p) (frame : Frame) (limit : Option Nat) (table : Table) :
    ∃ part cs, IsRead limit table part ∧ contacts frame p limit false table = .ok cs ∧
      cs.map (·.id) = (idsIn part).map (ContactId.mk s.schema.type) ∧
      (p.relationships.isSome = true ↔ request.hint.wants Relationship.hasMember = true) ∧
      (request.hint.wants Relationship.hasMember = false → ∀ c ∈ cs, c.relationships = []) ∧
      ∀ columns, p.relationships = some columns →
        (columns.members.isSome = true ↔ s.schema.type = .group) ∧
        (∀ c ∈ cs, Related p columns (rowsOf c.localId part) c) ∧
        ∀ text, (∀ item ∈ Packed.listItems text, Number.word? item.toList = none) →
          ∀ front back, idsOf (Packed.join Packed.list (front ++ text :: back)) =
            idsOf (Packed.join Packed.list (front ++ back)) := by
  obtain ⟨part, hpart, hread⟩ := exists_isRead frame p limit table
  have hcontacts : contacts frame p limit false table = .ok (told frame p part).contacts := by
    rw [contacts, gather, Bool.false_and, if_neg Bool.false_ne_true, hread]
    rfl
  have hschema := schema_of_plan hplan
  have hwants := isSome_relationships_iff hplan
  refine ⟨part, _, hpart, hcontacts, hschema ▸ map_id_told, hwants, fun hnot c hc => ?_,
    fun columns hcolumns => ⟨?_, fun c hc => ?_, fun _ htext => idsOf_join_of_forall htext⟩⟩
  · have hnone : p.relationships = none := by
      rw [← Option.not_isSome_iff_eq_none, hwants, hnot]
      exact Bool.false_ne_true
    rw [eq_contactOf_of_mem_told hc, relationships_contactOf,
      List.flatMap_eq_nil_iff.mpr fun row _ => edgesOf_of_none hnone row c.localId]
    rfl
  · rw [(isPartition_of_plan hplan).members_iff columns hcolumns, hschema]
  · have hrelated := related_contactOf hcolumns frame c.localId (rowsOf c.localId part)
    rwa [← eq_contactOf_of_mem_told hc] at hrelated

/-- Two rows of a group : the first names a group, a text that is no id and the group itself, and
among the members the group itself and another; the second names the first group again, and among
the members the other, an id with too many digits and one more. -/
def memberRows : Table := [
  [some "urn:staff", some "5", none, none, none, none, none, none, none, none,
    some "7\x1dseven\x1d5", some "5\x1d9"],
  [some "urn:staff", some "5", none, none, none, none, none, none, none, none,
    some "7", some "9\x1d4294967296\x1d2"]]

/-- The group has one edge for each id, also when it comes again, and one to itself. -/
theorem exists_related_memberRows : ∃ p c, Query.plan layoutScope {} = .ok p ∧
    p.relationships = some ⟨10, some 11⟩ ∧
    contacts ⟨{}, {}⟩ p none false memberRows = .ok [c] ∧
    Related p ⟨10, some 11⟩ memberRows c ∧
    c.relationships =
      [.membership 7 5, .membership 5 5, .membership 5 9, .membership 5 2] := by
  obtain ⟨p, c, hplan, hcolumns, hcontacts, hid, hedges⟩ : ∃ p c,
      Query.plan layoutScope {} = .ok p ∧ p.relationships = some ⟨10, some 11⟩ ∧
      contacts ⟨{}, {}⟩ p none false memberRows = .ok [c] ∧ c.localId = 5 ∧ c.relationships =
        [.membership 7 5, .membership 5 5, .membership 5 9, .membership 5 2] :=
    ⟨_, _, rfl, rfl, rfl, rfl, by decide +kernel⟩
  obtain ⟨part, cs, hpart, hread, -, -, -, hrelated⟩ :=
    exists_related hplan ⟨{}, {}⟩ none memberRows
  obtain rfl : part = memberRows := hpart
  obtain rfl : cs = [c] := Except.ok.inj (hread.symm.trans hcontacts)
  have hrows : rowsOf 5 memberRows = memberRows := by decide +kernel
  refine ⟨p, c, hplan, hcolumns, hcontacts, ?_, hedges⟩
  have hc := (hrelated _ hcolumns).2.1 c (List.mem_singleton_self c)
  rwa [hid, hrows] at hc

end Result

end ContactGraph
