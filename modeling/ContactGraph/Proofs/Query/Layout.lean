import ContactGraph.Proofs.Schema.Builder
import ContactGraph.Query.Plan

/-!
# Layouts and columns

The columns of a query are made in several passes, and layouts name them by number. Every pass makes
as many columns as its layout names, in the same order (`columns_uniqueColumns`,
`columns_multiColumns`), and reads each field the way its definition says
(`roles_uniqueColumns`, `roles_multiColumns`). Put together by `bindDetails`, the columns of the
details lie behind each other without a gap. A field that is built has a column unless it is
computed or follows from a property (`rolesOf_build_eq_nil_iff`).
-/

namespace ContactGraph.Query

variable {d : DetailDefinition} {n first : Nat}

/-! ## What layouts name -/

/-- What is read of a field. -/
inductive Role where
  /-- Its values. -/
  | value
  /-- Its free properties. -/
  | custom
  /-- The classes of the resource. -/
  | classes
  deriving DecidableEq, Repr

/-- What is to be read of a field : nothing when it is computed or follows from a property, the
classes when they decide in a detail that can be many, and else what its flags say. -/
def rolesOf (d : DetailDefinition) (f : FieldDefinition) : List Role :=
  if f.computed || f.byProperty then []
  else if !d.unique && f.byClass then [.classes]
  else (if f.withoutMapping then [] else [.value]) ++ (if f.customValues then [.custom] else [])

/-- The column of a URI, when it has one. -/
def UriSource.columns : Option UriSource → List Nat
  | some (.column c) => [c]
  | _ => []

/-- The field that a token is about. -/
def Token.field? : Token → Option Nat
  | .uri => none
  | .value i => some i
  | .custom i => some i
  | .classes i => some i

/-- What a token reads of a field. -/
def Token.role? (i : Nat) : Token → Option Role
  | .uri => none
  | .value j => if j = i then some .value else none
  | .custom j => if j = i then some .custom else none
  | .classes j => if j = i then some .classes else none

/-- What a column reads of a field, by the field it is about and whether it holds free properties.
-/
def kindRole? (i : Nat) (kind : Nat × Bool) : Option Role :=
  if kind.1 = i then some (if kind.2 then .custom else .value) else none

namespace Layout

/-- The columns that a layout names. -/
def columns : Layout → List Nat
  | .unique l =>
    l.slots.map (·.column) ++ l.subTypeColumns.map (·.column) ++ UriSource.columns l.uri
  | .multi l => l.main :: l.subTypeColumns.map (·.column)

/-- The fields that a layout names. -/
def fields : Layout → List Nat
  | .unique l => l.slots.map (·.field) ++ l.subTypeField.toList
  | .multi l => l.tokens.filterMap Token.field? ++ l.subTypeField.toList

/-- What a layout reads of a field, in order. -/
def roles (i : Nat) : Layout → List Role
  | .unique l => l.slots.filterMap fun s => kindRole? i (s.field, s.custom)
  | .multi l => l.tokens.filterMap (Token.role? i)

end Layout

/-! ## Fields without a column -/

/-- When a field without a chain keeps its values as free properties, something is read of it unless
it is computed or follows from a property. -/
theorem rolesOf_eq_nil_iff {f : FieldDefinition}
    (h : f.withoutMapping = true → f.customValues = true) :
    rolesOf d f = [] ↔ f.computed = true ∨ f.byProperty = true := by
  rw [← Bool.or_eq_true, rolesOf]
  split
  · rename_i hskipped
    exact iff_of_true rfl hskipped
  · rename_i hread
    refine iff_of_false ?_ hread
    split
    · exact List.cons_ne_nil _ _
    · cases hmap : f.withoutMapping with
      | false => exact List.cons_ne_nil _ _
      | true =>
        rw [h hmap]
        exact List.cons_ne_nil _ _

/-- Of a built field something is read unless a step leaves it to what is computed or it follows
from a property. Taking its chain away does not hide it. -/
theorem rolesOf_build_eq_nil_iff (name : String) (type : ValueType) (steps : List FieldStep) :
    rolesOf d (.build name type steps) = [] ↔
      .computed ∈ steps ∨ (FieldDefinition.build name type steps).byProperty = true := by
  have hkept : (FieldDefinition.build name type steps).withoutMapping = true →
      (FieldDefinition.build name type steps).customValues = true := fun hmap => by
    rw [FieldDefinition.withoutMapping_build_iff] at hmap
    rw [FieldDefinition.customValues_build_iff]
    exact .inr hmap
  rw [rolesOf_eq_nil_iff hkept, FieldDefinition.computed_build_iff]

/-! ## Numbered lists -/

theorem map_add_zipIdx {α : Type} (k : Nat) (xs : List α) :
    (xs.zipIdx.map fun x => k + x.2) = List.range' k xs.length := by
  calc xs.zipIdx.map (fun x => k + x.2)
      = (xs.zipIdx.map (·.2)).map (k + ·) := List.map_map.symm
    _ = List.range' k xs.length := by rw [List.zipIdx_map_snd, List.map_add_range', Nat.add_zero]

/-- What is picked of one field comes from that field alone. -/
theorem filterMap_flatMap_of_mem {α β : Type} {fields : List (FieldDefinition × Nat)}
    {g : FieldDefinition × Nat → List α} {pick : α → Option β} {f : FieldDefinition} {i : Nat}
    (hnodup : (fields.map (·.2)).Nodup) (hmem : (f, i) ∈ fields)
    (hother : ∀ f' j, j ≠ i → (g (f', j)).filterMap pick = []) :
    (fields.flatMap g).filterMap pick = (g (f, i)).filterMap pick := by
  induction fields with
  | nil => exact absurd hmem List.not_mem_nil
  | cons head fields ih =>
    obtain ⟨hfresh, hnodup⟩ := List.nodup_cons.mp hnodup
    have hfresh : ∀ fj ∈ fields, fj.2 ≠ head.2 := fun fj hfj h =>
      hfresh (List.mem_map.mpr ⟨fj, hfj, h⟩)
    rw [List.flatMap_cons, List.filterMap_append]
    rcases List.mem_cons.mp hmem with rfl | hmem
    · have hrest : (fields.flatMap g).filterMap pick = [] := by
        rw [List.filterMap_flatMap, List.flatMap_eq_nil_iff]
        rintro ⟨f', j⟩ hj
        exact hother f' j (hfresh _ hj)
      rw [hrest, List.append_nil]
    · rw [hother head.1 head.2 (hfresh _ hmem).symm, List.nil_append, ih hnodup hmem]

/-! ## Sub-types -/

theorem map_column_subTypeColumns (first : Nat) (types : List Labelled) :
    (subTypeColumns first types).map (·.column) = List.range' first types.length := by
  rw [subTypeColumns, List.map_map]
  exact map_add_zipIdx first types

theorem length_uniqueSubTypes (f : FieldDefinition) (types : List Labelled) :
    (uniqueSubTypes d f types n).1.length = types.length := by
  induction types generalizing n with
  | nil => rfl
  | cons t ts ih => exact congrArg (· + 1) ih

theorem length_multiSubTypes (tokens : List Token) (types : List Labelled) :
    (multiSubTypes d tokens types n).1.length = types.length := by
  induction types generalizing n with
  | nil => rfl
  | cons t ts ih => exact congrArg (· + 1) ih

theorem lt_length_of_propertySubTypes {i : Nat} {types : List Labelled}
    (h : d.propertySubTypes = some (i, types)) : i < d.fields.length := by
  obtain ⟨⟨f, j⟩, hmem, hf⟩ := List.exists_of_findSome?_eq_some h
  dsimp only at hf
  split at hf
  · rw [Option.some.injEq, Prod.mk.injEq] at hf
    rw [← hf.1]
    exact (List.mem_zipIdx' hmem).1
  · exact absurd hf (by simp)

/-! ## Unique details -/

/-- The fields of the columns of a field, and whether they hold free properties. -/
def cellKinds (fi : FieldDefinition × Nat) : List (Nat × Bool) :=
  if fi.1.computed || fi.1.byProperty then []
  else (if fi.1.withoutMapping then [] else [(fi.2, false)]) ++
    (if fi.1.customValues then [(fi.2, true)] else [])

theorem kinds_fieldCells (f : FieldDefinition) (i : Nat) :
    (fieldCells d f i n).1.map (fun c => (c.field, c.custom)) = cellKinds (f, i) := by
  unfold fieldCells cellKinds
  split
  · rfl
  · show (((valueCells d f i n).1 ++ (customCells d f i _).1).map _) = _
    rw [List.map_append]
    congr 1
    · rw [valueCells]
      split <;> rfl
    · rw [customCells]
      split <;> rfl

theorem kinds_cellsOf (fields : List (FieldDefinition × Nat)) :
    (cellsOf d fields n).1.map (fun c => (c.field, c.custom)) = fields.flatMap cellKinds := by
  induction fields generalizing n with
  | nil => rfl
  | cons fi fields ih =>
    show (((fieldCells d fi.1 fi.2 n).1 ++ (cellsOf d fields _).1).map _) = _
    rw [List.map_append, kinds_fieldCells, ih, List.flatMap_cons]

/-- The column of the URI of a unique detail, when it stands behind `k` columns. -/
def uriSourceAt (d : DetailDefinition) (k : Nat) : Option UriSource :=
  if d.isAffiliation then some .affiliation else if d.hasUri then some (.column k) else none

theorem length_uniqueUri (k : Nat) :
    UriSource.columns (uriSourceAt d k) = List.range' k (uniqueUri d n).1.length := by
  unfold uniqueUri uriSourceAt
  cases d.isAffiliation with
  | true => rfl
  | false => cases d.hasUri <;> rfl

/-- The sub-types kept by property, none when there is no field for them. -/
def propertyTypes (d : DetailDefinition) : List Labelled :=
  (d.propertySubTypes.map (·.2)).getD []

/-- The slots of columns that stand from `first` on. -/
def slotsOf (first : Nat) (cells : List Cell) : List Slot :=
  cells.zipIdx.map fun (c, i) => ⟨c.field, first + i, c.custom⟩

/-- What the columns of a unique detail are made of. -/
theorem uniqueColumns_eq (d : DetailDefinition) (first n : Nat) :
    ∃ (cells : List Cell) (subTypes uris : List Expr),
      (uniqueColumns d first n).1 = (cells.map (·.expr) ++ subTypes ++ uris,
        ⟨slotsOf first cells,
          uriSourceAt d (first + (slotsOf first cells).length + (propertyTypes d).length),
          d.propertySubTypes.map (·.1),
          subTypeColumns (first + (slotsOf first cells).length) (propertyTypes d)⟩) ∧
      cells.map (fun c => (c.field, c.custom)) = d.fields.zipIdx.flatMap cellKinds ∧
      subTypes.length = (propertyTypes d).length ∧
      ∀ k, UriSource.columns (uriSourceAt d k) = List.range' k uris.length := by
  unfold uniqueColumns propertyTypes
  cases d.propertySubTypes with
  | none => exact ⟨_, _, _, rfl, kinds_cellsOf _, rfl, fun k => length_uniqueUri k⟩
  | some p =>
    exact ⟨_, _, _, rfl, kinds_cellsOf _, length_uniqueSubTypes _ _, fun k => length_uniqueUri k⟩

theorem length_slotsOf (first : Nat) (cells : List Cell) :
    (slotsOf first cells).length = cells.length := by
  simp [slotsOf]

/-- A unique detail makes as many columns as its layout names, in the same order. -/
theorem columns_uniqueColumns (d : DetailDefinition) (first n : Nat) :
    (Layout.unique (uniqueColumns d first n).1.2).columns =
      List.range' first (uniqueColumns d first n).1.1.length := by
  obtain ⟨cells, subTypes, uris, heq, -, htypes, huri⟩ := uniqueColumns_eq d first n
  have hslots : (slotsOf first cells).map (·.column) = List.range' first cells.length := by
    rw [slotsOf, List.map_map]
    exact map_add_zipIdx first cells
  rw [heq, Layout.columns]
  dsimp only
  rw [hslots, map_column_subTypeColumns, huri, length_slotsOf, ← htypes, List.range'_append_1,
    Nat.add_assoc, List.range'_append_1, List.length_append, List.length_append, List.length_map]

theorem kinds_slotsOf (first : Nat) (cells : List Cell) :
    (slotsOf first cells).map (fun s => (s.field, s.custom)) =
      cells.map fun c => (c.field, c.custom) := by
  calc (slotsOf first cells).map (fun s => (s.field, s.custom))
      = (cells.zipIdx.map (·.1)).map fun c => (c.field, c.custom) := by
        rw [slotsOf, List.map_map, List.map_map]
        rfl
    _ = cells.map fun c => (c.field, c.custom) := by rw [List.zipIdx_map_fst]

theorem fst_of_mem_cellKinds {f : FieldDefinition} {j : Nat} {kind : Nat × Bool}
    (h : kind ∈ cellKinds (f, j)) : kind.1 = j := by
  unfold cellKinds at h
  split at h
  · exact absurd h List.not_mem_nil
  · rcases List.mem_append.mp h with h | h <;> split at h <;> simp_all

theorem filterMap_cellKinds_of_ne (f : FieldDefinition) {i j : Nat} (h : j ≠ i) :
    (cellKinds (f, j)).filterMap (kindRole? i) = [] :=
  List.filterMap_eq_nil_iff.mpr fun _ hkind => if_neg (fst_of_mem_cellKinds hkind ▸ h)

theorem filterMap_cellKinds (hd : d.unique = true) (f : FieldDefinition) (i : Nat) :
    (cellKinds (f, i)).filterMap (kindRole? i) = rolesOf d f := by
  unfold cellKinds rolesOf
  rw [hd]
  cases f.computed || f.byProperty <;> cases f.withoutMapping <;> cases f.customValues <;>
    simp [kindRole?]

/-- A unique detail reads of each field what its flags say. -/
theorem roles_uniqueColumns (hd : d.unique = true) {f : FieldDefinition} {i : Nat}
    (hf : d.fields[i]? = some f) (first n : Nat) :
    (Layout.unique (uniqueColumns d first n).1.2).roles i = rolesOf d f := by
  obtain ⟨cells, subTypes, uris, heq, hkinds, -, -⟩ := uniqueColumns_eq d first n
  rw [heq, Layout.roles]
  calc (slotsOf first cells).filterMap (fun s => kindRole? i (s.field, s.custom))
      = ((slotsOf first cells).map fun s => (s.field, s.custom)).filterMap (kindRole? i) := by
        rw [List.filterMap_map]
        rfl
    _ = (d.fields.zipIdx.flatMap cellKinds).filterMap (kindRole? i) := by
        rw [kinds_slotsOf, hkinds]
    _ = (cellKinds (f, i)).filterMap (kindRole? i) := by
        refine filterMap_flatMap_of_mem ?_ (List.mk_mem_zipIdx_iff_getElem?.mpr hf)
          fun f' j h => filterMap_cellKinds_of_ne f' h
        rw [List.zipIdx_map_snd]
        exact List.nodup_range'
    _ = rolesOf d f := filterMap_cellKinds hd f i

theorem fst_lt_of_mem_cellKinds {kind : Nat × Bool}
    (h : kind ∈ d.fields.zipIdx.flatMap cellKinds) : kind.1 < d.fields.length := by
  obtain ⟨⟨f, j⟩, hj, hkind⟩ := List.mem_flatMap.mp h
  rw [fst_of_mem_cellKinds hkind]
  exact (List.mem_zipIdx' hj).1

/-- The layout of a unique detail only names fields that there are. -/
theorem fields_uniqueColumns {i : Nat} (first n : Nat)
    (hi : i ∈ (Layout.unique (uniqueColumns d first n).1.2).fields) : i < d.fields.length := by
  obtain ⟨cells, subTypes, uris, heq, hkinds, -, -⟩ := uniqueColumns_eq d first n
  rw [heq, Layout.fields, List.mem_append] at hi
  rcases hi with hi | hi
  · obtain ⟨slot, hslot, rfl⟩ := List.mem_map.mp hi
    have hkind : (slot.field, slot.custom) ∈ d.fields.zipIdx.flatMap cellKinds := by
      rw [← hkinds, ← kinds_slotsOf first]
      exact List.mem_map_of_mem hslot
    exact fst_lt_of_mem_cellKinds hkind
  · obtain ⟨⟨j, types⟩, htypes, rfl⟩ := Option.map_eq_some_iff.mp (Option.mem_toList.mp hi)
    exact lt_length_of_propertySubTypes htypes

/-! ## Details that can be many -/

theorem field?_of_mem_fieldTokens {f : FieldDefinition} {j : Nat} {t : Token}
    (h : t ∈ fieldTokens f j) : t.field? = some j := by
  unfold fieldTokens at h
  split at h
  · exact absurd h List.not_mem_nil
  · split at h
    · rw [List.mem_singleton.mp h]
      rfl
    · rcases List.mem_append.mp h with h | h <;> split at h <;> simp_all [Token.field?]

theorem role?_of_field?_ne {t : Token} {i : Nat} (h : t.field? ≠ some i) : t.role? i = none := by
  cases t with
  | uri => rfl
  | value j => exact if_neg fun hj => h (congrArg some hj)
  | custom j => exact if_neg fun hj => h (congrArg some hj)
  | classes j => exact if_neg fun hj => h (congrArg some hj)

theorem filterMap_fieldTokens_of_ne (f : FieldDefinition) {i j : Nat} (h : j ≠ i) :
    (fieldTokens f j).filterMap (Token.role? i) = [] :=
  List.filterMap_eq_nil_iff.mpr fun _ ht => role?_of_field?_ne fun hi =>
    h (Option.some.inj ((field?_of_mem_fieldTokens ht).symm.trans hi))

theorem filterMap_fieldTokens (hd : d.unique = false) (f : FieldDefinition) (i : Nat) :
    (fieldTokens f i).filterMap (Token.role? i) = rolesOf d f := by
  unfold fieldTokens rolesOf
  rw [hd]
  cases f.computed || f.byProperty <;> cases f.byClass <;> cases f.withoutMapping <;>
    cases f.customValues <;> simp [Token.role?]

/-- The fields of a detail with their places, those with inverse steps last. -/
def orderedFields (d : DetailDefinition) : List (FieldDefinition × Nat) :=
  d.fields.zipIdx.filter (fun (f, _) => !f.hasInverse) ++
    d.fields.zipIdx.filter fun (f, _) => f.hasInverse

theorem tokensOf_eq (d : DetailDefinition) : tokensOf d =
    (if d.hasUri then [.uri] else []) ++
      (orderedFields d).flatMap fun fi => fieldTokens fi.1 fi.2 :=
  rfl

theorem orderedFields_perm (d : DetailDefinition) : (orderedFields d).Perm d.fields.zipIdx := by
  refine List.perm_append_comm.trans ?_
  exact List.filter_append_perm (fun fi => fi.1.hasInverse) d.fields.zipIdx

/-- What the columns of a detail that can be many are made of. -/
theorem multiColumns_eq (d : DetailDefinition) (first n : Nat) :
    ∃ (main : Expr) (subTypes : List Expr),
      (multiColumns d first n).1 = (main :: subTypes,
        ⟨first, tokensOf d, d.propertySubTypes.map (·.1),
          subTypeColumns (first + 1) (propertyTypes d)⟩) ∧
      subTypes.length = (propertyTypes d).length := by
  unfold multiColumns propertyTypes
  cases d.propertySubTypes with
  | none => exact ⟨_, _, rfl, rfl⟩
  | some p => exact ⟨_, _, rfl, length_multiSubTypes _ _⟩

/-- A detail that can be many makes as many columns as its layout names, in the same order. -/
theorem columns_multiColumns (d : DetailDefinition) (first n : Nat) :
    (Layout.multi (multiColumns d first n).1.2).columns =
      List.range' first (multiColumns d first n).1.1.length := by
  obtain ⟨main, subTypes, heq, htypes⟩ := multiColumns_eq d first n
  rw [heq, Layout.columns]
  dsimp only
  rw [map_column_subTypeColumns, ← htypes, List.length_cons, List.range'_succ]

/-- A detail that can be many reads of each field what its flags say. -/
theorem roles_multiColumns (hd : d.unique = false) {f : FieldDefinition} {i : Nat}
    (hf : d.fields[i]? = some f) (first n : Nat) :
    (Layout.multi (multiColumns d first n).1.2).roles i = rolesOf d f := by
  obtain ⟨main, subTypes, heq, -⟩ := multiColumns_eq d first n
  have hmem : (f, i) ∈ orderedFields d :=
    (orderedFields_perm d).mem_iff.mpr (List.mk_mem_zipIdx_iff_getElem?.mpr hf)
  have hnodup : ((orderedFields d).map (·.2)).Nodup := by
    rw [((orderedFields_perm d).map (·.2)).nodup_iff, List.zipIdx_map_snd]
    exact List.nodup_range'
  have huri : (if d.hasUri then [Token.uri] else []).filterMap (Token.role? i) = [] := by
    split <;> rfl
  rw [heq, Layout.roles]
  dsimp only
  rw [tokensOf_eq, List.filterMap_append, huri, List.nil_append,
    filterMap_flatMap_of_mem hnodup hmem fun f' j h => filterMap_fieldTokens_of_ne f' h,
    filterMap_fieldTokens hd]

/-- The layout of a detail that can be many only names fields that there are. -/
theorem fields_multiColumns {i : Nat} (first n : Nat)
    (hi : i ∈ (Layout.multi (multiColumns d first n).1.2).fields) : i < d.fields.length := by
  obtain ⟨main, subTypes, heq, -⟩ := multiColumns_eq d first n
  rw [heq, Layout.fields, List.mem_append] at hi
  rcases hi with hi | hi
  · obtain ⟨t, ht, hfield⟩ := List.mem_filterMap.mp hi
    rw [tokensOf_eq, List.mem_append] at ht
    rcases ht with ht | ht
    · split at ht
      · rw [List.mem_singleton.mp ht] at hfield
        exact absurd hfield (by simp [Token.field?])
      · exact absurd ht List.not_mem_nil
    · obtain ⟨⟨f, j⟩, hj, ht⟩ := List.mem_flatMap.mp ht
      rw [field?_of_mem_fieldTokens ht, Option.some.injEq] at hfield
      rw [← hfield]
      exact (List.mem_zipIdx' ((orderedFields_perm d).mem_iff.mp hj)).1
  · obtain ⟨⟨j, types⟩, htypes, rfl⟩ := Option.map_eq_some_iff.mp (Option.mem_toList.mp hi)
    exact lt_length_of_propertySubTypes htypes

end ContactGraph.Query
