import ContactGraph.Proofs.Query.Ordering
import ContactGraph.Proofs.Sort.Contacts
import ContactGraph.Proofs.Text.Capitalized

/-!
# The order of the store and the order of contacts

The store compares contacts by keys, which are texts in lower case, and contacts are compared by
their values. For free details the keys compare as the values do under the sort order that the store
follows (`SortOrder.asStored`) : it puts contacts without a value first when it goes up, and last
when it goes down. The sort orders it accepts all ask for them first. So the two comparisons are one
(`compareAll_storedKeys`) except when it goes down and just one of the contacts has a value; then
they can be opposite (`compareAll_storedKeys_pets`).
-/

namespace ContactGraph

open Query

/-! ## One sort order -/

/-- A text that is not empty is its own key. -/
theorem SortKey.read_text {s : String} (hs : s ≠ "") : SortKey.read (some s) .text = .text s := by
  rw [SortKey.read, Option.filter_some_pos (by simpa using hs)]
  rfl

/-- Turning things round turns the order round in either direction. -/
theorem SortDirection.apply_swap (d : SortDirection) (o : Ordering) :
    d.apply o.swap = (d.apply o).swap := by
  cases d <;> rfl

namespace SortOrder

variable {schema : Schema} {o : SortOrder} {a b : Contact}

/-- The key of a contact under a sort order, as a query for ids brings it : the value in lower
case. -/
def storedKey (schema : Schema) (o : SortOrder) (c : Contact) : SortKey :=
  SortKey.read ((o.key? c).map fun v => Text.lowercase v.toText) (schema.keyType o)

/-- The sort order that the store follows. It puts contacts without a value first, and when it goes
down last. -/
def asStored (o : SortOrder) : SortOrder :=
  { o with
    blanks := match o.direction with
      | .ascending => .first
      | .descending => .last }

theorem blankFirst_asStored (o : SortOrder) :
    o.asStored.blanks.blankFirst = o.direction.apply .lt := by
  unfold asStored
  cases o.direction <;> rfl

/-- The key of a free detail is the text of the value in lower case. -/
theorem storedKey_eq (hfree : schema.detail? o.detail = none)
    (ha : ∀ v ∈ o.key? a, v.type = .text) :
    o.storedKey schema a = match o.key? a with
      | none => .blank
      | some v => .text (Text.lowercase v.toText) := by
  have htype : schema.keyType o = .text := by rw [Schema.keyType, hfree, Option.bind_none]
  rw [storedKey, htype]
  cases hkey : o.key? a with
  | none => rfl
  | some v =>
    have hv := (Option.filter_eq_some_iff.mp hkey).2
    cases v with
    | text s =>
      have hs : s ≠ "" := by simpa [Value.isEmpty] using hv
      exact SortKey.read_text (Text.lowercase_ne_empty hs)
    | _ => cases ha _ hkey

/-- Keys of a free detail compare as the values do under the sort order that the store follows. -/
theorem orderBy_storedKey (hcase : o.caseSensitive = false)
    (hfree : schema.detail? o.detail = none)
    (ha : ∀ v ∈ o.key? a, v.type = .text) (hb : ∀ v ∈ o.key? b, v.type = .text) :
    SortKey.orderBy o (o.storedKey schema a) (o.storedKey schema b) = o.asStored.compareBy a b := by
  have hkeys : o.asStored.compareBy a b = o.asStored.compareKeys (o.key? a) (o.key? b) := rfl
  rw [storedKey_eq hfree ha, storedKey_eq hfree hb, hkeys]
  cases hx : o.key? a with
  | none =>
    cases o.key? b with
    | none =>
      show o.direction.apply .eq = .eq
      cases o.direction <;> rfl
    | some w => exact o.blankFirst_asStored.symm
  | some v =>
    cases hy : o.key? b with
    | none =>
      have hswap := o.direction.apply_swap .lt
      rw [← o.blankFirst_asStored] at hswap
      exact hswap
    | some w =>
      have hv := ha v hx
      have hw := hb w hy
      cases v with
      | text s =>
        cases w with
        | text u =>
          show _ = o.direction.apply (Value.compareTexts o.caseSensitive s u)
          rw [hcase]
          rfl
        | _ => cases hw
      | _ => cases hv

/-- The store follows a sort order that asks for blanks first, unless it goes down and just one
contact has a value. -/
theorem compareBy_asStored (hfirst : o.blanks = .first)
    (hboth : o.direction = .descending → ((o.key? a).isSome ↔ (o.key? b).isSome)) :
    o.asStored.compareBy a b = o.compareBy a b := by
  cases hd : o.direction with
  | ascending =>
    have hstored : o.asStored = o := by
      cases o
      cases hd
      cases hfirst
      rfl
    rw [hstored]
  | descending =>
    have hboth := hboth hd
    have hkeys : o.asStored.compareBy a b = o.asStored.compareKeys (o.key? a) (o.key? b) := rfl
    rw [hkeys, compareBy]
    cases hx : o.key? a with
    | none =>
      cases hy : o.key? b with
      | none => rfl
      | some w => simp [hx, hy] at hboth
    | some v =>
      cases hy : o.key? b with
      | none => simp [hx, hy] at hboth
      | some w => rfl

end SortOrder

/-! ## Several sort orders -/

/-- The keys of a contact, one for each sort order. -/
def Contact.storedKeys (schema : Schema) (orders : List SortOrder) (c : Contact) : List SortKey :=
  orders.map (·.storedKey schema c)

/-- The first sort order that tells contacts apart is the first that tells their keys apart. -/
theorem Contact.order_congr {orders : List SortOrder} {f : SortOrder → SortOrder} {a b : Contact}
    (h : ∀ o ∈ orders, (f o).compareBy a b = o.compareBy a b) :
    Contact.order (orders.map f) a b = Contact.order orders a b := by
  induction orders with
  | nil => rfl
  | cons o os ih =>
    rw [List.forall_mem_cons] at h
    rw [List.map_cons, Contact.order, Contact.order, h.1, ih h.2]

namespace SortKey

variable {schema : Schema} {orders : List SortOrder} {a b : Contact}

theorem compareAll_storedKeys_eq (hcase : ∀ o ∈ orders, o.caseSensitive = false)
    (hfree : ∀ o ∈ orders, schema.detail? o.detail = none)
    (ha : ∀ o ∈ orders, ∀ v ∈ o.key? a, v.type = .text)
    (hb : ∀ o ∈ orders, ∀ v ∈ o.key? b, v.type = .text) :
    compareAll orders (a.storedKeys schema orders) (b.storedKeys schema orders) =
      Contact.order (orders.map SortOrder.asStored) a b := by
  induction orders with
  | nil => rfl
  | cons o os ih =>
    rw [List.forall_mem_cons] at hcase hfree ha hb
    have hhead := SortOrder.orderBy_storedKey hcase.1 hfree.1 ha.1 hb.1
    rw [Contact.storedKeys, Contact.storedKeys, List.map_cons, List.map_cons, compareAll_cons,
      hhead, List.map_cons, Contact.order]
    exact congrArg _ (ih hcase.2 hfree.2 ha.2 hb.2)

/-- Let the store accept all sort orders, each of them by a free detail, and let the values of two
contacts be texts. Their keys compare as the contacts do under the sort orders that the store
follows. Where no sort order goes down with just one of the values there, they compare as the
contacts do. -/
theorem compareAll_storedKeys {n : Nat} (haccepted : (orderConditions schema orders n).1.isSome)
    (hfree : ∀ o ∈ orders, schema.detail? o.detail = none)
    (ha : ∀ o ∈ orders, ∀ v ∈ o.key? a, v.type = .text)
    (hb : ∀ o ∈ orders, ∀ v ∈ o.key? b, v.type = .text) :
    compareAll orders (a.storedKeys schema orders) (b.storedKeys schema orders) =
        Contact.order (orders.map SortOrder.asStored) a b ∧
      ((∀ o ∈ orders, o.direction = .descending → ((o.key? a).isSome ↔ (o.key? b).isSome)) →
        compareAll orders (a.storedKeys schema orders) (b.storedKeys schema orders) =
          Contact.order orders a b) := by
  have hstore : ∀ o ∈ orders, o.caseSensitive = false ∧ o.blanks = .first := by
    intro o ho
    have hevaluable := (orderConditions_isSome_iff.mp haccepted o ho).1
    simpa [isStoreOrder] using hevaluable
  have hkeys := compareAll_storedKeys_eq (fun o ho => (hstore o ho).1) hfree ha hb
  refine ⟨hkeys, fun hboth => ?_⟩
  rw [hkeys]
  exact Contact.order_congr fun o ho =>
    SortOrder.compareBy_asStored (hstore o ho).2 (hboth o ho)

/-- A person with a pet, of which the name or the kind may be known. -/
def petOwner (id : LocalId) (name kind : Option String) : Contact :=
  { id := ⟨.person, id⟩
    details := [{
      name := "Pet"
      values := NameMap.ofList
        ((name.map fun s => ("Name", Value.text s)).toList ++
          (kind.map fun s => ("Kind", Value.text s)).toList) }] }

/-- By the name of the pet, downwards. -/
def byPetName : SortOrder :=
  { detail := "Pet", field := "Name", direction := .descending, caseSensitive := false
    blanks := .first }

/-- By the kind of the pet. -/
def byPetKind : SortOrder :=
  { detail := "Pet", field := "Kind", caseSensitive := false, blanks := .first }

/-- Names that differ in letter case are tied, and then the pet of unknown kind comes first. -/
theorem compareAll_storedKeys_tied :
    let orders := [byPetName, byPetKind]
    let rex := petOwner 1 (some "REX") none
    let dog := petOwner 2 (some "rex") (some "dog")
    compareAll orders (rex.storedKeys default orders) (dog.storedKeys default orders) = .lt ∧
      Contact.order orders rex dog = .lt := by
  intro orders rex dog
  have haccepted : (orderConditions default orders 0).1.isSome = true := rfl
  have hagree := (compareAll_storedKeys haccepted (a := rex) (b := dog) (by decide +kernel)
    (by decide +kernel) (by decide +kernel)).2 (by decide +kernel)
  have horder : Contact.order orders rex dog = .lt := by decide +kernel
  exact ⟨hagree.trans horder, horder⟩

/-- Downwards the store puts the pet without a name behind the others, and the sort order puts it in
front of them. -/
theorem compareAll_storedKeys_pets :
    let orders := [byPetName]
    let unnamed := petOwner 1 none none
    let lee := petOwner 2 (some "lee") none
    (orderConditions default orders 0).1.isSome = true ∧
      (∀ o ∈ orders, (default : Schema).detail? o.detail = none) ∧
      (∀ c ∈ [unnamed, lee], ∀ o ∈ orders, ∀ v ∈ o.key? c, v.type = .text) ∧
      compareAll orders (unnamed.storedKeys default orders) (lee.storedKeys default orders) = .gt ∧
      Contact.order orders unnamed lee = .lt := by
  refine ⟨rfl, ?_, ?_, ?_, ?_⟩ <;> decide +kernel

end SortKey

end ContactGraph
