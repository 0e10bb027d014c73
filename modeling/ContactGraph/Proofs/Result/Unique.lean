import ContactGraph.Proofs.Result.Fields
import Mathlib.Data.List.Infix

/-!
# Details of which there is one

A unique detail is saved unless one of its name is there, so what rows tell in the columns of a
binding adds no second one, however many rows contradict each other (`length_detailsNamed_addRow`).
Free details are saved as they come, also one that has the name of a unique detail. Besides these a
contact has at most one detail of that name (`length_detailsNamed_of_mem_contacts`); with them it
can have two (`detailsNamed_freeNickname`).
-/

namespace ContactGraph

open Query

namespace Contact

theorem detailsNamed_save (c : Contact) (x : Detail) (name : String) :
    (c.save x).detailsNamed name = c.detailsNamed name ++ if x.name = name then [x] else [] := by
  rw [detailsNamed, save, List.filter_append]
  by_cases h : x.name = name <;> simp [detailsNamed, h]

theorem detailsNamed_eq_nil_iff {c : Contact} {name : String} :
    c.detailsNamed name = [] ↔ c.detail? name = none := by
  simp [detailsNamed, detail?]

end Contact

namespace Result

variable {frame : Frame} {plan : Plan} {row : Row} {c : Contact} {x : Detail} {name : String}
  {n : Nat}

/-- The free details of a name that rows tell. -/
def freeNamed (frame : Frame) (plan : Plan) (name : String) (rows : Table) : List Detail :=
  (rows.flatMap (freeDetailsOf frame plan)).filter (·.name = name)

/-- Saving a unique detail leaves at most one more than others may add. -/
theorem length_detailsNamed_saveBy_unique {l : UniqueLayout}
    (hc : (c.detailsNamed name).length ≤ 1 + n) :
    ((saveBy (.unique l) c x).detailsNamed name).length ≤ 1 + n := by
  rw [saveBy, Contact.getD_saveUnique]
  split
  · exact hc
  · rename_i hsome
    have hnone : c.detailsNamed x.name = [] :=
      Contact.detailsNamed_eq_nil_iff.mpr (Option.not_isSome_iff_eq_none.mp hsome)
    rw [Contact.detailsNamed_save]
    split
    · rename_i hname
      rw [← hname, hnone, List.nil_append, List.length_singleton]
      exact Nat.le_add_right 1 n
    · rwa [List.append_nil]

/-- Saving a detail of another name leaves those of a name as they are. -/
theorem detailsNamed_saveBy_of_ne (layout : Layout) (h : x.name ≠ name) :
    (saveBy layout c x).detailsNamed name = c.detailsNamed name := by
  rw [Contact.detailsNamed, Contact.detailsNamed]
  rcases saveBy_details layout c x with heq | heq
  · rw [heq]
  · simp [heq, List.filter_append, h]

/-- A row adds its free details of a name, and at most one in the columns of bindings. -/
theorem length_detailsNamed_addRow
    (hunique : ∀ b ∈ plan.bindings, b.detail.name = name → ∃ l, b.layout = .unique l)
    (hc : (c.detailsNamed name).length ≤ 1 + n) :
    ((addRow frame plan row c).detailsNamed name).length ≤
      1 + (n + (freeNamed frame plan name [row]).length) := by
  have hbound :
      ((plan.bindings.foldl (addBinding frame row) c).detailsNamed name).length ≤ 1 + n := by
    refine foldl_addBinding_induction (P := fun c => (c.detailsNamed name).length ≤ 1 + n) hc
      fun b hb x hx c hc => ?_
    obtain ⟨parts, -, hmade⟩ := exists_isMadeOf hx
    by_cases hname : b.detail.name = name
    · obtain ⟨l, hl⟩ := hunique b hb hname
      rw [hl]
      exact length_detailsNamed_saveBy_unique hc
    · rwa [detailsNamed_saveBy_of_ne _ (hmade.name_eq ▸ hname)]
  rw [Contact.detailsNamed, addRow_details, List.filter_append, List.length_append, freeNamed,
    List.flatMap_singleton, ← Nat.add_assoc]
  exact Nat.add_le_add_right hbound _

/-- Rows add their free details of a name, and at most one in the columns of bindings. -/
theorem length_detailsNamed_contactOf
    (hunique : ∀ b ∈ plan.bindings, b.detail.name = name → ∃ l, b.layout = .unique l)
    (id : LocalId) (rows : Table) :
    ((contactOf frame plan id rows).detailsNamed name).length ≤
      1 + (freeNamed frame plan name rows).length := by
  induction rows using List.reverseRecOn with
  | nil => exact Nat.zero_le _
  | append_singleton rows row ih =>
    have hfree : freeNamed frame plan name (rows ++ [row]) =
        freeNamed frame plan name rows ++ freeNamed frame plan name [row] := by
      rw [freeNamed, List.flatMap_append, List.filter_append]
      rfl
    rw [contactOf_concat, hfree, List.length_append]
    exact length_detailsNamed_addRow hunique ih

/-- Whatever rows say, in any order and however they contradict each other, a contact has at most
one detail of the name of a unique detail besides the free details that its rows give that name. -/
theorem length_detailsNamed_of_mem_contacts {s : Scope} {request : Request} {d : DetailDefinition}
    {table : Table} {limit : Option Nat} {canceled : Bool} {cs : List Contact}
    (hnames : (s.schema.details.map (·.name)).Nodup) (hd : d ∈ s.schema.details)
    (hunique : d.unique = true) (hplan : Query.plan s request = .ok plan)
    (h : contacts frame plan limit canceled table = .ok cs) (hc : c ∈ cs) :
    (c.detailsNamed d.name).length ≤
        1 + (freeNamed frame plan d.name (rowsOf c.localId table)).length ∧
      ((∀ row ∈ rowsOf c.localId table, ∀ x ∈ freeDetailsOf frame plan row, x.name ≠ d.name) →
        (c.detailsNamed d.name).length ≤ 1) := by
  obtain ⟨rows, hrows, heq⟩ := exists_rows_of_mem_contacts h hc
  have hfree : (freeNamed frame plan d.name rows).length ≤
      (freeNamed frame plan d.name (rowsOf c.localId table)).length :=
    ((hrows.flatMap (freeDetailsOf frame plan)).filter _).length_le
  have hlayout : ∀ b ∈ plan.bindings, b.detail.name = d.name → ∃ l, b.layout = .unique l := by
    intro b hb hname
    have hdetail := (layout_of_mem_bindings hplan hb).1
    have hsame : b.detail = d := List.inj_on_of_nodup_map hnames hdetail hd hname
    obtain ⟨-, hl⟩ | ⟨hmany, -⟩ := layout_of_unique hplan hb
    · exact hl
    · rw [hsame, hunique] at hmany
      cases hmany
  have hcontact : ((contactOf frame plan c.localId rows).detailsNamed d.name).length ≤
      1 + (freeNamed frame plan d.name rows).length :=
    length_detailsNamed_contactOf hlayout c.localId rows
  rw [← heq] at hcontact
  have hle : (c.detailsNamed d.name).length ≤
      1 + (freeNamed frame plan d.name (rowsOf c.localId table)).length := by omega
  refine ⟨hle, fun hnone => ?_⟩
  have hnil : freeNamed frame plan d.name (rowsOf c.localId table) = [] := by
    simpa [freeNamed, List.filter_eq_nil_iff] using fun x row hrow hx => hnone row hrow x hx
  simpa [hnil] using hle

/-- Persons with a nickname, of which there is one. -/
def nicknameScope : Scope :=
  { schema := {
      type := .person
      details := [
        { name := Names.nickname, unique := true, dependencies := [Names.nickname]
          fields := [
            { name := Names.nickname, type := .text
              chain := [{ iri := Vocabulary.Nco.nickname }] }] }] }
    settings := {}
    ids := {} }

/-- Two nicknames of one person, with a pet beside the first. -/
def zedOrAmy : Table := [
  [none, some "1", none, none, some "zed", some "Pet\x1fKind\x1f0:cat"],
  [none, some "1", none, none, some "amy"]]

/-- Of two nicknames one is kept, and the pet stands behind it. -/
theorem length_detailsNamed_zedOrAmy : ∃ p c, Query.plan nicknameScope {} = .ok p ∧
    contacts ⟨{}, {}⟩ p none false zedOrAmy = .ok [c] ∧
    c.details.map (·.name) = [Names.nickname, "Pet"] ∧
    (c.detailsNamed Names.nickname).length ≤ 1 := by
  obtain ⟨p, c, hp, hc, hnames, hfree⟩ : ∃ p c, Query.plan nicknameScope {} = .ok p ∧
      contacts ⟨{}, {}⟩ p none false zedOrAmy = .ok [c] ∧
      c.details.map (·.name) = [Names.nickname, "Pet"] ∧
      ∀ row ∈ rowsOf c.localId zedOrAmy, ∀ x ∈ freeDetailsOf ⟨{}, {}⟩ p row,
        x.name ≠ Names.nickname :=
    ⟨_, _, rfl, rfl, by decide +kernel, by decide +kernel⟩
  have hone := length_detailsNamed_of_mem_contacts (d := nicknameScope.schema.details[0])
    (by decide) (List.getElem_mem _) rfl hp hc (List.mem_singleton_self c)
  exact ⟨p, c, hp, hc, hnames, hone.2 hfree⟩

/-- A free detail called like the nickname is a second nickname. -/
theorem detailsNamed_freeNickname : ∃ p c, Query.plan nicknameScope {} = .ok p ∧
    (nicknameScope.schema.details.map fun d => (d.name, d.unique)) = [(Names.nickname, true)] ∧
    contacts ⟨{}, {}⟩ p none false [
      [none, some "1", none, none, some "zed",
        some "Nickname\x1fNickname\x1f0:amy"]] = .ok [c] ∧
    (c.detailsNamed Names.nickname).map (·.text Names.nickname) = ["zed", "amy"] :=
  ⟨_, _, rfl, rfl, rfl, by decide +kernel⟩

end Result

end ContactGraph
