import ContactGraph.Proofs.Query.Aggregates
import ContactGraph.Proofs.Result.Custom
import ContactGraph.Query.Plan

/-!
# What the column of free details holds

The column of free details goes over the free details of a contact, over the fields of each and over
the values of each of these, in whatever order the store finds them. `Store.TellsDetail` says what a
store tells of one detail that way. The column then holds the details as they are packed, and they
are read from it again (`readCustoms_customDetailsExpr`).
-/

namespace ContactGraph

open Query Result Vocabulary

namespace Store

variable {T : Store} {rows : List Valuation} {β ρ : Valuation} {detail field value : Variable}

/-! ## What a store tells -/

/-- A solution tells a value of a field, and the number of the field as its position. -/
structure TellsValue (T : Store) (field value : Variable) (ρ : Valuation) (v : Packed.Placed) :
    Prop where
  /-- The field is a resource with the number. -/
  position : ∃ n, (ρ field).bind T.number? = some n ∧ n.toNat = v.position.toNat
  /-- The value has the text. -/
  text : ∃ x, ρ value = some x ∧ x.str = v.value.text

/-- A solution tells a field with all its values. -/
structure TellsField (T : Store) (field value : Variable) (ρ : Valuation) (f : FreeField) :
    Prop where
  /-- The field has the name. -/
  name : T.value [] ρ (.call Nao.propertyName [.var field]) = some (.text f.name.text)
  /-- The values are found in their order. -/
  values : List.Forall₂ (T.TellsValue field value)
    (T.solutions ρ [edge field Nao.propertyValue value]) f.values

/-- A solution tells a free detail with all its fields. -/
structure TellsDetail (T : Store) (detail field value : Variable) (ρ : Valuation) (d : FreeDetail) :
    Prop where
  /-- The detail has the name. -/
  name : T.value [] ρ (.call Nao.propertyName [.var detail]) = some (.text d.name.text)
  /-- The fields are found in their order. -/
  fields : List.Forall₂ (T.TellsField field value)
    (T.solutions ρ [edge detail Nao.hasProperty field]) d.fields

/-- The free details of a contact, or those with one of the names. -/
def freeGroup (names : List String) (detail : Variable) : Group :=
  edge contactVar Nao.hasProperty detail ::
    if names.isEmpty then []
    else [.filter (.isIn (.call Nao.propertyName [.var detail]) (names.map Expr.text))]

/-! ## What the column holds -/

/-- What is told of all solutions is collected. -/
theorem value_collect_of_forall₂ {α : Type} {R : Valuation → α → Prop} {e : Expr} {g : Group}
    {xs : List α} {text : α → String} (sep : Char) (h : List.Forall₂ R (T.solutions β g) xs)
    (htext : ∀ ρ x, R ρ x → T.value [] ρ e = some (.text (text x))) :
    T.value rows β (collect e sep g) = some (.text (Packed.join sep (xs.map text))) := by
  refine value_collect sep ?_
  rw [List.map_map]
  generalize T.solutions β g = ρs at h
  induction h with
  | nil => rfl
  | cons hx _ ih => rw [List.map_cons, List.map_cons, htext _ _ hx, ih]; rfl

/-- A text between two others. -/
theorem value_concat_between {l r : Expr} {s t : String} (between : String)
    (hl : T.value [] ρ l = some (.text s)) (hr : T.value [] ρ r = some (.text t)) :
    T.value [] ρ (Expr.concat [l, Expr.text between, r]) = some (.text (s ++ between ++ t)) := by
  have hparts : [l, Expr.text between, r].map (T.value [] ρ) =
      [s, between, t].map fun t => some (.text t) := by
    simp only [List.map_cons, List.map_nil, hl, hr]
    rfl
  rw [value_concat hparts, String.join_cons, String.join_cons, String.join_cons, String.join_nil,
    String.append_empty, String.append_assoc]

theorem value_tuple {v : Packed.Placed} (h : T.TellsValue field value ρ v) :
    T.value [] ρ (Expr.concat [.str (Expr.idOf (.var field)), Expr.text ":", .str (.var value)]) =
      some (.text v.tuple) := by
  obtain ⟨⟨n, hfield, hn⟩, x, hvalue, hx⟩ := h
  refine value_concat_between ":" ?_ ?_
  · rw [Store.value, value_idOf, hfield, Option.map_some, Option.map_some, Node.str,
      Number.intDigits_natCast, hn]
  · rw [Store.value, Store.value, hvalue, Option.map_some, hx]

/-- A name, and what is collected behind it. -/
theorem value_joined {e rest : Expr} {name text : String}
    (he : T.value [] ρ e = some (.text name)) (hrest : T.value [] ρ rest = some (.text text)) :
    T.value [] ρ (Expr.concat [e, Expr.text (separator Packed.field), rest]) =
      some (.text (Packed.join Packed.field [name, text])) := by
  rw [value_concat_between _ he hrest, Packed.join, String.intercalate_cons_cons,
    String.intercalate_singleton]
  rfl

theorem value_item {f : FreeField} (h : T.TellsField field value ρ f) :
    T.value [] ρ (Expr.concat [.call Nao.propertyName [.var field],
      Expr.text (separator Packed.field), collect
        (Expr.concat [.str (Expr.idOf (.var field)), Expr.text ":", .str (.var value)])
        Packed.list [edge field Nao.propertyValue value]]) = some (.text f.item) :=
  value_joined h.name (value_collect_of_forall₂ Packed.list h.values fun _ _ => value_tuple)

/-- The column of free details holds what the store tells of them, packed. -/
theorem value_customDetailsExpr {names : List String} {n : Nat} {ds : List FreeDetail}
    (h : List.Forall₂ (T.TellsDetail (.numbered (n + 1)) (.numbered (n + 2)) (.numbered (n + 3)))
      (T.solutions β (freeGroup names (.numbered (n + 1)))) ds) :
    T.value rows β (customDetailsExpr names n).1 = some (.text (packed ds)) :=
  value_collect_of_forall₂ Packed.detail h fun _ _ hd =>
    value_joined hd.name (value_collect_of_forall₂ Packed.field hd.fields fun _ _ => value_item)

/-- The free details that a store tells of a contact are read from the column, but for empty ones.
-/
theorem readCustoms_customDetailsExpr {names : List String} {n : Nat} {ds : List FreeDetail}
    {settings : Settings} (huntyped : ∀ d ∈ ds, d.IsUntyped settings)
    (h : List.Forall₂ (T.TellsDetail (.numbered (n + 1)) (.numbered (n + 2)) (.numbered (n + 3)))
      (T.solutions β (freeGroup names (.numbered (n + 1)))) ds) :
    ∃ raw, T.value rows β (customDetailsExpr names n).1 = some (.text raw) ∧
      readCustoms settings raw = (ds.map FreeDetail.detail).filter (!·.isEmpty) :=
  ⟨packed ds, value_customDetailsExpr h, readCustoms_packed_eq huntyped⟩

/-- A store that knows Amy's pet. -/
def petStore : Store :=
  { triples := [
      ⟨.resource "urn:amy", Nao.hasProperty, .resource "urn:pet", none⟩,
      ⟨.resource "urn:pet", Nao.hasProperty, .resource "urn:age", none⟩,
      ⟨.resource "urn:age", Nao.propertyValue, .integer 4, none⟩]
    number := fun iri => if iri = "urn:age" then some 3 else none
    function := fun _ xs => if xs = [some (.resource "urn:pet")] then some (.text "Pet")
      else some (.text "Age") }

example : petStore.value [] (.contact "urn:amy") (customDetailsExpr ["Pet"] 0).1 =
    some (.text (packed [{
      name := { text := "Pet" }
      fields := [{ name := { text := "Age" }, values := [⟨3, { text := "4" }⟩] }] }])) := by
  rfl

end Store

end ContactGraph
