import ContactGraph.Proofs.Contact.Basic
import ContactGraph.Proofs.Contact.Detail
import ContactGraph.Proofs.Result.Placed
import ContactGraph.Result.Custom
import Mathlib.Data.List.Flatten
import Mathlib.Data.List.Forall2

/-!
# Free details and their cell

Free details are packed into one cell (`packed`) : the name of a detail, then the names of its
fields, each followed by values that carry their positions (`FreeDetail.item_eq`). The store gives
them in any order and can name a field more than once. What is read from the cell are the details
(`readCustoms_packed`) : a field has its values in the order of their positions, whatever the order
they come in.
-/

namespace ContactGraph

namespace Result

variable {settings : Settings}

/-! ## Fields of a detail -/

theorem setCustom_eq (settings : Settings) (d : Detail) (e : String × List String) :
    setCustom settings d e = { d with values := (setCustom settings d e).values } := by
  unfold setCustom
  split <;> rfl

theorem value?_setCustom (settings : Settings) (d : Detail) (e : String × List String)
    (k : String) :
    (setCustom settings d e).value? k =
      if k = e.1 then
        ((textsValue (Packed.orderedValues (Packed.join Packed.list e.2))).map
          (customValue settings d.name k)).or (d.value? k)
      else d.value? k := by
  unfold setCustom
  split
  · rename_i hnone
    rw [hnone, Option.map_none, Option.none_or, ite_self]
  · rename_i v hsome
    rw [hsome, Option.map_some, Option.some_or, Detail.value?_set]
    split
    · rename_i hk
      rw [hk]
    · rfl

/-- There is no value in no cell. -/
theorem textsValue_join_nil :
    textsValue (Packed.orderedValues (Packed.join Packed.list [])) = none :=
  rfl

/-- Fields are set one after the other, each to its own values. -/
theorem value?_foldl_setCustom (settings : Settings) {es : List (String × List String)}
    (hsorted : es.Pairwise fun a b => a.1 < b.1) (d : Detail) (k : String) :
    (es.foldl (setCustom settings) d).value? k =
      ((textsValue (Packed.orderedValues (Packed.join Packed.list ((es.lookup k).getD [])))).map
        (customValue settings d.name k)).or (d.value? k) := by
  induction es generalizing d with
  | nil => rfl
  | cons e es ih =>
    obtain ⟨hfirst, hrest⟩ := List.pairwise_cons.mp hsorted
    have hname : (setCustom settings d e).name = d.name := by rw [setCustom_eq]
    rw [List.foldl_cons, ih hrest, hname, value?_setCustom, NameMap.lookup_cons]
    by_cases hk : k = e.1
    · subst hk
      -- no later entry is of the same field
      have hbehind : es.lookup e.1 = none := by
        rw [Option.eq_none_iff_forall_ne_some]
        intro cells hcells
        have hmem := (NameMap.lookup_eq_some_iff hrest).mp hcells
        exact String.lt_irrefl e.1 (hfirst (e.1, cells) hmem)
      rw [if_pos rfl, if_pos rfl, hbehind, Option.getD_none, textsValue_join_nil, Option.map_none,
        Option.none_or, Option.getD_some]
    · rw [if_neg hk, if_neg hk]

theorem foldl_setCustom_eq (settings : Settings) (d : Detail) (es : List (String × List String)) :
    es.foldl (setCustom settings) d =
      { d with values := (es.foldl (setCustom settings) d).values } := by
  induction es generalizing d with
  | nil => rfl
  | cons e es ih =>
    rw [List.foldl_cons, ih, setCustom_eq]

/-! ## Packing -/

/-- A field with values, as it is packed. -/
structure FreeField where
  /-- The name of the field. -/
  name : Packed.Plain
  /-- A field has a name. -/
  name_ne : name.text ≠ "" := by decide
  /-- The values. -/
  values : List Packed.Placed

/-- A detail without a definition, as it is packed. -/
structure FreeDetail where
  /-- The name of the detail. -/
  name : Packed.Plain
  /-- Its fields. Their names can repeat. -/
  fields : List FreeField

namespace FreeField

/-- The values of a field, packed. -/
def cell (f : FreeField) : String :=
  Packed.join Packed.list (f.values.map Packed.Placed.tuple)

/-- Its name and its values. -/
def pair (f : FreeField) : List String :=
  [f.name.text, f.cell]

/-- A field, packed. -/
def item (f : FreeField) : String :=
  Packed.join Packed.field f.pair

end FreeField

namespace FreeDetail

/-- A detail, packed : its name, then its fields. -/
def item (d : FreeDetail) : String :=
  Packed.join Packed.field [d.name.text, Packed.join Packed.field (d.fields.map FreeField.item)]

/-- With fields, the name and the names and values of the fields stand behind each other. -/
theorem item_eq {d : FreeDetail} (hne : d.fields ≠ []) :
    d.item = Packed.join Packed.field (d.name.text :: d.fields.flatMap FreeField.pair) := by
  have hpairs : ∀ ts ∈ d.fields.map FreeField.pair, ts ≠ [] := by
    rw [List.forall_mem_map]
    exact fun f _ => List.cons_ne_nil _ _
  have hjoined := Packed.join_map_join Packed.field hpairs
  rw [List.map_map, ← List.flatMap_def] at hjoined
  obtain ⟨f, fs, hfields⟩ := List.exists_cons_of_ne_nil hne
  have hflat : d.fields.flatMap FreeField.pair ≠ [] := by
    rw [hfields]
    exact List.cons_ne_nil _ _
  calc d.item
      = d.name.text ++ String.singleton Packed.field ++
          Packed.join Packed.field (d.fields.map FreeField.item) := String.intercalate_cons_cons
    _ = Packed.join Packed.field [d.name.text] ++ String.singleton Packed.field ++
          Packed.join Packed.field (d.fields.flatMap FreeField.pair) := by
        rw [← hjoined, Packed.join_singleton]
        rfl
    _ = Packed.join Packed.field (d.name.text :: d.fields.flatMap FreeField.pair) :=
        (Packed.join_append _ (List.cons_ne_nil _ _) hflat).symm

/-- All values of a field, wherever it is named. -/
def valuesOf (d : FreeDetail) (field : String) : List Packed.Placed :=
  (d.fields.filter (·.name.text = field)).flatMap (·.values)

/-- What a field holds : its values in the order of their positions. -/
def value? (d : FreeDetail) (field : String) : Option Value :=
  textsValue (Packed.inOrder (d.valuesOf field))

/-- What its fields hold. Fields without values are absent. -/
def values (d : FreeDetail) : NameMap Value :=
  NameMap.ofList (d.fields.filterMap fun f => (d.value? f.name.text).map (f.name.text, ·))

/-- The detail. -/
def detail (d : FreeDetail) : Detail :=
  { name := d.name.text, values := d.values }

/-- No type is configured for its fields that have values. -/
def IsUntyped (settings : Settings) (d : FreeDetail) : Prop :=
  ∀ field, d.valuesOf field ≠ [] → settings.customType? d.name.text field = none

/-- The same detail with fields, or values of a field, in another order. Where two values of a field
have one position, the values of that field keep their order. -/
structure Rearranged (d e : FreeDetail) : Prop where
  /-- The names are the same. -/
  name : d.name.text = e.name.text
  /-- So are the values of each field. -/
  values : ∀ field, d.valuesOf field = e.valuesOf field ∨
    (d.valuesOf field).Perm (e.valuesOf field) ∧ ((d.valuesOf field).map (·.position)).Nodup

/-- Fields and values can be put in any order where the positions in a field are distinct. -/
theorem Rearranged.of_perm {d e : FreeDetail} {fs : List FreeField}
    (hname : d.name.text = e.name.text) (hfields : d.fields.Perm fs)
    (hvalues : List.Forall₂ (fun f g => f.name.text = g.name.text ∧ f.values.Perm g.values)
      fs e.fields)
    (hnodup : ∀ field, ((d.valuesOf field).map (·.position)).Nodup) : d.Rearranged e := by
  refine ⟨hname, fun field => .inr ⟨?_, hnodup field⟩⟩
  refine ((hfields.filter _).flatMap_right _).trans ?_
  rw [valuesOf]
  generalize e.fields = gs at hvalues
  clear hfields
  induction hvalues with
  | nil => exact .nil
  | @cons f g fs gs hfg _ ih =>
    obtain ⟨hsame, hperm⟩ := hfg
    by_cases hfield : f.name.text = field
    · rw [List.filter_cons_of_pos (by simpa using hfield),
        List.filter_cons_of_pos (by simpa [← hsame] using hfield), List.flatMap_cons,
        List.flatMap_cons]
      exact hperm.append ih
    · rw [List.filter_cons_of_neg (by simpa using hfield),
        List.filter_cons_of_neg (by simpa [← hsame] using hfield)]
      exact ih

theorem valuesOf_sublist (d : FreeDetail) (field : String) :
    (d.valuesOf field).Sublist (d.fields.flatMap (·.values)) :=
  List.filter_sublist.flatMap _

end FreeDetail

/-- The cell of free details. -/
def packed (ds : List FreeDetail) : String :=
  Packed.join Packed.detail (ds.map FreeDetail.item)

/-! ## Reading -/

/-- The values of a field are gathered wherever it is named. -/
theorem get?_gatherPairs (m : NameMap (List String)) (fs : List FreeField) (k : String) :
    (gatherPairs m (fs.flatMap FreeField.pair)).get? k =
      if fs.filter (·.name.text = k) = [] then m.get? k
      else some ((m.get? k).getD [] ++ (fs.filter (·.name.text = k)).map FreeField.cell) := by
  induction fs generalizing m with
  | nil => simp [gatherPairs]
  | cons f fs ih =>
    rw [List.flatMap_cons, FreeField.pair, List.cons_append, List.singleton_append, gatherPairs,
      if_neg f.name_ne, ih, NameMap.get?_insert]
    by_cases hk : k = f.name.text
    · subst hk
      rw [if_pos rfl, List.filter_cons_of_pos (by simp), if_neg (List.cons_ne_nil _ _),
        List.map_cons, Option.getD_some]
      split
      · rename_i hlast
        rw [hlast, List.map_nil]
      · rw [List.append_assoc, List.singleton_append]
    · rw [if_neg hk, List.filter_cons_of_neg (by simpa using Ne.symm hk)]

/-- The pairs of a field in a detail hold its values. -/
theorem orderedValues_gatherPairs (d : FreeDetail) (k : String) :
    Packed.orderedValues (Packed.join Packed.list (((gatherPairs ∅
      (d.fields.flatMap FreeField.pair)).get? k).getD [])) =
      Packed.inOrder (d.valuesOf k) := by
  have hcells : ((gatherPairs ∅ (d.fields.flatMap FreeField.pair)).get? k).getD [] =
      (d.fields.filter (·.name.text = k)).map FreeField.cell := by
    rw [get?_gatherPairs]
    split
    · rename_i hnone
      rw [hnone]
      rfl
    · rfl
  have hvalues := Packed.orderedValues_join ((d.fields.filter (·.name.text = k)).map (·.values))
  rw [List.map_map, ← List.flatMap_def] at hvalues
  rw [hcells]
  exact hvalues

namespace FreeField

theorem not_mem_cell {f : FreeField} {c : Char} (hlist : c ≠ Packed.list)
    (hdigit : c.isDigit = false) (hcolon : c ≠ ':')
    (hvalues : ∀ v ∈ f.values, c ∉ v.value.text.toList) : c ∉ f.cell.toList := by
  refine Packed.not_mem_join hlist ?_
  rw [List.forall_mem_map]
  exact fun v hv => Packed.Placed.not_mem_tuple hdigit hcolon (hvalues v hv)

theorem parts_item (f : FreeField) :
    Packed.parts Packed.field f.item = f.pair := by
  refine Packed.parts_join (List.cons_ne_nil _ _) ?_
  rw [pair, List.forall_mem_cons, List.forall_mem_singleton]
  exact ⟨f.name.field_notMem, not_mem_cell (by decide) (by decide) (by decide)
    fun v _ => v.value.field_notMem⟩

theorem detail_not_mem_item (f : FreeField) : Packed.detail ∉ f.item.toList := by
  refine Packed.not_mem_join (by decide) ?_
  rw [pair, List.forall_mem_cons, List.forall_mem_singleton]
  exact ⟨f.name.detail_notMem, not_mem_cell (by decide) (by decide) (by decide)
    fun v _ => v.value.detail_notMem⟩

end FreeField

namespace FreeDetail

theorem detail_not_mem_item (d : FreeDetail) : Packed.detail ∉ d.item.toList := by
  refine Packed.not_mem_join (by decide) ?_
  rw [List.forall_mem_cons, List.forall_mem_singleton]
  refine ⟨d.name.detail_notMem, Packed.not_mem_join (by decide) ?_⟩
  rw [List.forall_mem_map]
  exact fun f _ => f.detail_not_mem_item

/-- There is a separator behind the name. -/
theorem item_ne_empty (d : FreeDetail) : d.item ≠ "" := by
  intro h
  rcases Packed.join_eq_empty h with h | h
  · exact absurd h (List.cons_ne_nil _ _)
  · exact absurd (List.cons.inj h).2 (List.cons_ne_nil _ _)

theorem fields_item (d : FreeDetail) :
    Packed.fields d.item =
      d.name.text :: Packed.parts Packed.field (Packed.join Packed.field
        (d.fields.map FreeField.item)) := by
  rw [Packed.fields, item, Packed.parts_join_flatMap (List.cons_ne_nil _ _), List.flatMap_cons,
    Packed.parts_eq_singleton d.name.field_notMem, List.flatMap_singleton, List.singleton_append]

/-- The fields of a packed detail are pairs of a name and values. -/
theorem parts_join_items {fs : List FreeField} (hne : fs ≠ []) :
    Packed.parts Packed.field (Packed.join Packed.field (fs.map FreeField.item)) =
      fs.flatMap FreeField.pair := by
  rw [Packed.parts_join_flatMap (by simpa using hne), List.flatMap_map]
  exact List.flatMap_congr fun f _ => f.parts_item

theorem value?_detail (d : FreeDetail) (field : String) :
    d.detail.value? field = d.value? field := by
  have hentries : ∀ e ∈ d.fields.filterMap fun f =>
      (d.value? f.name.text).map (f.name.text, ·), d.value? e.1 = some e.2 := by
    intro e he
    obtain ⟨f, -, hf⟩ := List.mem_filterMap.mp he
    obtain ⟨v, hv, rfl⟩ := Option.map_eq_some_iff.mp hf
    exact hv
  refine (NameMap.get?_ofList hentries field).trans (ite_eq_left_iff.mpr fun hmem => ?_)
  -- a field that is not named has no values
  rw [eq_comm, Option.eq_none_iff_forall_ne_some]
  intro v hv
  refine hmem (List.mem_map.mpr ⟨(field, v), List.mem_filterMap.mpr ?_, rfl⟩)
  have hnamed : d.fields.filter (·.name.text = field) ≠ [] := by
    intro hnone
    rw [value?, valuesOf, hnone, List.flatMap_nil, Packed.inOrder_nil] at hv
    cases hv
  obtain ⟨f, hmem⟩ := List.exists_mem_of_ne_nil _ hnamed
  obtain ⟨hf, hname⟩ := List.mem_filter.mp hmem
  obtain rfl := of_decide_eq_true hname
  exact ⟨f, hf, by rw [hv]; rfl⟩

theorem value?_congr {d e : FreeDetail} (h : d.Rearranged e) (field : String) :
    d.value? field = e.value? field := by
  rcases h.values field with hsame | ⟨hperm, hnodup⟩
  · rw [value?, value?, hsame]
  · rw [value?, value?, Packed.inOrder_of_perm hperm hnodup]

/-- A detail does not depend on the order it is packed in. -/
theorem Rearranged.detail_eq {d e : FreeDetail} (h : d.Rearranged e) : d.detail = e.detail := by
  have hvalues : d.values = e.values := NameMap.ext_get? fun field => by
    calc d.values.get? field
        = d.value? field := d.value?_detail field
      _ = e.value? field := value?_congr h field
      _ = e.values.get? field := (e.value?_detail field).symm
  rw [detail, detail, hvalues, h.name]

theorem Rearranged.isUntyped {d e : FreeDetail} (h : d.Rearranged e) (hd : d.IsUntyped settings) :
    e.IsUntyped settings := by
  intro field hvalues
  rw [← h.name]
  refine hd field fun hnone => hvalues ?_
  rcases h.values field with hsame | ⟨hperm, -⟩
  · rw [← hsame, hnone]
  · exact List.nil_perm.mp (hnone ▸ hperm)

theorem map_detail_eq {ds es : List FreeDetail} (h : List.Forall₂ Rearranged ds es)
    (hds : ∀ d ∈ ds, d.IsUntyped settings) :
    ds.map detail = es.map detail ∧ ∀ e ∈ es, e.IsUntyped settings := by
  induction h with
  | nil => exact ⟨rfl, nofun⟩
  | cons hde _ ih =>
    rw [List.forall_mem_cons] at hds
    obtain ⟨hdetails, huntyped⟩ := ih hds.2
    rw [List.map_cons, List.map_cons, hde.detail_eq, hdetails, List.forall_mem_cons]
    exact ⟨rfl, hde.isUntyped hds.1, huntyped⟩

end FreeDetail

/-- What is gathered from a packed detail is what its fields hold. -/
theorem foldl_setCustom_gatherPairs {d : FreeDetail} (huntyped : d.IsUntyped settings) :
    (gatherPairs ∅ (d.fields.flatMap FreeField.pair)).entries.foldl (setCustom settings)
      { name := d.name.text } = d.detail := by
  have hkept : ∀ field, (d.value? field).map (customValue settings d.name.text field) =
      d.value? field := by
    intro field
    by_cases hvalues : d.valuesOf field = []
    · rw [FreeDetail.value?, hvalues, Packed.inOrder_nil]
      rfl
    · refine (Option.map_congr fun v _ => ?_).trans Option.map_id_apply
      rw [customValue, huntyped field hvalues, id]
  rw [foldl_setCustom_eq, FreeDetail.detail, Detail.mk.injEq]
  refine ⟨rfl, NameMap.ext_get? fun field => ?_, rfl, rfl, rfl, rfl⟩
  have hfold := value?_foldl_setCustom settings
    (gatherPairs ∅ (d.fields.flatMap FreeField.pair)).sorted { name := d.name.text } field
  have hnew : ({ name := d.name.text } : Detail).value? field = none := rfl
  rw [hnew, Option.or_none] at hfold
  refine hfold.trans ?_
  have hgathered := orderedValues_gatherPairs d field
  rw [NameMap.get?] at hgathered
  rw [hgathered]
  exact (hkept field).trans (d.value?_detail field).symm

/-- A packed detail is read as it is, unless it is empty. -/
theorem readCustom_item {d : FreeDetail} (huntyped : d.IsUntyped settings) :
    readCustom settings d.item = if d.detail.isEmpty then none else some d.detail := by
  cases hfields : d.fields with
  | nil =>
    have hread : Packed.fields d.item = [d.name.text, ""] := by
      rw [d.fields_item, hfields]
      rfl
    have hempty : d.detail.isEmpty = true := by
      rw [FreeDetail.detail, FreeDetail.values, hfields]
      rfl
    rw [hempty, readCustom, hread]
    rfl
  | cons f fs =>
    have hne : d.fields ≠ [] := by
      rw [hfields]
      exact List.cons_ne_nil f fs
    have hpairs : d.fields.flatMap FreeField.pair =
        f.name.text :: f.cell :: fs.flatMap FreeField.pair := by
      rw [hfields, List.flatMap_cons]
      rfl
    have hread : Packed.fields d.item = d.name.text :: f.name.text :: f.cell ::
        fs.flatMap FreeField.pair := by
      rw [d.fields_item, FreeDetail.parts_join_items hne, hpairs]
    have hgathered := foldl_setCustom_gatherPairs huntyped
    rw [hpairs] at hgathered
    rw [readCustom, hread]
    dsimp only
    rw [hgathered]

/-- The cell of free details is read as the details that are not empty, in order. -/
theorem readCustoms_packed_eq {ds : List FreeDetail} (huntyped : ∀ d ∈ ds, d.IsUntyped settings) :
    readCustoms settings (packed ds) = (ds.map FreeDetail.detail).filter (!·.isEmpty) := by
  have hfree : ∀ t ∈ ds.map FreeDetail.item, Packed.detail ∉ t.toList := by
    rw [List.forall_mem_map]
    exact fun d _ => d.detail_not_mem_item
  have hitems : Packed.detailItems (packed ds) = ds.map FreeDetail.item := by
    rw [Packed.detailItems, packed, Packed.items_join hfree, List.filter_eq_self,
      List.forall_mem_map]
    exact fun d _ => decide_eq_true d.item_ne_empty
  calc readCustoms settings (packed ds)
      = ds.filterMap fun d => readCustom settings d.item := by
        rw [readCustoms, hitems, List.filterMap_map]
        rfl
    _ = ds.filterMap fun d => Option.guard (!·.isEmpty) d.detail :=
        List.filterMap_congr fun d hd => by
          rw [readCustom_item (huntyped d hd)]
          cases h : d.detail.isEmpty <;> simp [Option.guard, h]
    _ = (ds.map FreeDetail.detail).filter (!·.isEmpty) := by
        rw [← List.filterMap_eq_filter, List.filterMap_map]
        rfl

/-- Free details survive packing, in whatever order the store gives their fields and values. A
contact gets the details that are not empty, in order. A field holds the values of all fields of its
name in the order of their positions, and where no two positions are equal, what is read does not
depend on the order they are packed in. -/
theorem readCustoms_packed {ds : List FreeDetail} (huntyped : ∀ d ∈ ds, d.IsUntyped settings) :
    (∀ c : Contact, (readCustoms settings (packed ds)).foldl Contact.save c =
      { c with details := c.details ++ (ds.map FreeDetail.detail).filter (!·.isEmpty) }) ∧
    (∀ d ∈ ds, ∀ field, d.detail.value? field = textsValue (Packed.inOrder (d.valuesOf field))) ∧
    ∀ es, List.Forall₂ FreeDetail.Rearranged ds es →
      readCustoms settings (packed es) = readCustoms settings (packed ds) := by
  refine ⟨fun c => ?_, fun d _ => d.value?_detail, fun es h => ?_⟩
  · rw [readCustoms_packed_eq huntyped, Contact.foldl_save]
  · obtain ⟨hdetails, huntyped'⟩ := FreeDetail.map_detail_eq h huntyped
    rw [readCustoms_packed_eq huntyped, readCustoms_packed_eq huntyped', hdetails]

/-- The name of a pet, with a colon in a part of it. -/
def petName : FreeField :=
  { name := { text := "Name" }
    values := [⟨10, { text := "b:c" }⟩, ⟨9, { text := "a" }⟩] }

/-- The same parts, turned around. -/
def petNameTurned : FreeField :=
  { petName with values := petName.values.reverse }

/-- More of the name of a pet : nothing, but before the rest. -/
def petNameStart : FreeField :=
  { name := { text := "Name" }, values := [⟨2, { text := "" }⟩] }

/-- The age of a pet. -/
def petAge : FreeField :=
  { name := { text := "Age" }, values := [⟨3, { text := "4" }⟩] }

/-- A pet whose name is in two places. -/
def pet : FreeDetail :=
  ⟨{ text := "Pet" }, [petName, petAge, petNameStart]⟩

/-- The same pet, from a store with another order. -/
def petTurned : FreeDetail :=
  ⟨{ text := "Pet" }, [petNameStart, petNameTurned, petAge]⟩

/-- A pet without fields. -/
def petBare : FreeDetail :=
  ⟨{ text := "Pet" }, []⟩

/-- What is read of the pet. -/
def petRead : Detail :=
  { name := "Pet"
    values := .ofList [("Name", .list ["", "a", "b:c"]), ("Age", .text "4")] }

theorem rearranged_petTurned : pet.Rearranged petTurned := by
  have hfields : ([petName, petAge] ++ [petNameStart]).Perm ([petNameStart] ++ [petName, petAge]) :=
    List.perm_append_comm
  have hvalues : List.Forall₂ (fun f g => f.name.text = g.name.text ∧ f.values.Perm g.values)
      [petNameStart, petName, petAge] petTurned.fields :=
    .cons ⟨rfl, .rfl⟩ (.cons ⟨rfl, (List.reverse_perm _).symm⟩ (.cons ⟨rfl, .rfl⟩ .nil))
  have hnodup : ((pet.fields.flatMap (·.values)).map (·.position)).Nodup := by decide
  exact .of_perm rfl hfields hvalues fun field =>
    hnodup.sublist ((pet.valuesOf_sublist field).map _)

theorem detail_pet : pet.detail = petRead := by
  have hname : pet.value? "Name" = some (.list ["", "a", "b:c"]) := by
    rw [FreeDetail.value?, ← Packed.inOrder_eq]
    rfl
  have hage : pet.value? "Age" = some (.text "4") := by
    rw [FreeDetail.value?, ← Packed.inOrder_eq]
    rfl
  have hfields : pet.fields.map (·.name.text) = ["Name", "Age", "Name"] := rfl
  have hvalues : pet.values = NameMap.ofList ((pet.fields.map (·.name.text)).filterMap fun field =>
      (pet.value? field).map (field, ·)) := by
    rw [FreeDetail.values, List.filterMap_map]
    rfl
  rw [FreeDetail.detail, hvalues, hfields, List.filterMap_cons, List.filterMap_cons,
    List.filterMap_cons, List.filterMap_nil, hname, hage]
  rfl

/-- The pet is read from either order, its name a list that starts with the empty text, and the pet
without fields is left out. -/
theorem readCustoms_packed_pet :
    (∀ d ∈ [petBare, pet], d.IsUntyped default) ∧
    (readCustoms default (packed [petBare, pet])).foldl Contact.save default =
      { (default : Contact) with details := [petRead] } ∧
    readCustoms default (packed [petBare, petTurned]) =
      readCustoms default (packed [petBare, pet]) := by
  have huntyped : ∀ d ∈ [petBare, pet], d.IsUntyped default := fun _ _ _ _ => rfl
  obtain ⟨hread, -, horder⟩ := readCustoms_packed huntyped
  refine ⟨huntyped, (hread default).trans ?_, horder _ ?_⟩
  · rw [List.map_cons, List.map_singleton, detail_pet]
    rfl
  · have hbare : petBare.Rearranged petBare := ⟨rfl, fun _ => .inl rfl⟩
    exact .cons hbare (.cons rearranged_petTurned .nil)

end Result

end ContactGraph
