import ContactGraph.Contact.Names
import ContactGraph.Proofs.Query.Aggregates
import ContactGraph.Result.Instance
import Mathlib.Data.List.Basic

/-!
# Instances from cells

An instance of a detail is made part by part : each part has a token that says what its text means
(`withPart`), and the instance counts when some part sets a typed or a custom value (`instanceOf`).
Reading a cell cuts its text into instances and those into parts. Whatever texts the parts of the
instances are, as long as they are free of the separators, reading the joined texts makes of each
instance what its own parts make of it (`readItems_cell`).
-/

namespace ContactGraph.Result

open Query Vocabulary

variable {frame : Frame} {d : DetailDefinition}

/-! ## What parts mean -/

/-- The draft with one more part of an instance in it. A URI has to be a text, a value is what
stands before its graph, free properties add to what is set already, and classes set the
sub-types. -/
def withPart (frame : Frame) (d : DetailDefinition) (draft : Draft) : Token × String → Draft
  | (.uri, text) =>
    if text = "" then draft else ⟨{ draft.detail with uri := some text }, draft.graphs⟩
  | (.value i, text) =>
    let (value, graph) := splitOwned d text
    ⟨setIfSome draft.detail (d.fieldAt i).name (fieldValue frame.ids (d.fieldAt i) value),
      addGraph draft.graphs graph⟩
  | (.custom i, text) =>
    ⟨(addCustom? draft.detail (d.fieldAt i) text).getD draft.detail, draft.graphs⟩
  | (.classes i, text) =>
    ⟨setIfSome draft.detail (d.fieldAt i).name (classValue frame.ids (d.fieldAt i) text),
      draft.graphs⟩

/-- Whether a part sets a typed or a custom value. -/
def setsValue (frame : Frame) (d : DetailDefinition) (draft : Draft) : Token × String → Bool
  | (.value i, text) => (fieldValue frame.ids (d.fieldAt i) (splitOwned d text).1).isSome
  | (.custom i, text) => (addCustom? draft.detail (d.fieldAt i) text).isSome
  | (.uri, _) => false
  | (.classes _, _) => false

/-- Whether any of several parts sets a typed or a custom value. -/
def anySetsValue (frame : Frame) (d : DetailDefinition) : Draft → List (Token × String) → Bool
  | _, [] => false
  | draft, p :: ps =>
    setsValue frame d draft p || anySetsValue frame d (withPart frame d draft p) ps

/-- The instance made of its parts, unless none of them sets a typed or a custom value. -/
def instanceOf (frame : Frame) (d : DetailDefinition) (parts : List (Token × String)) :
    Option Draft :=
  let blank : Draft := ⟨{ name := d.name }, []⟩
  if anySetsValue frame d blank parts then some (parts.foldl (withPart frame d) blank) else none

/-! ## Empty parts -/

theorem splitOwned_empty (d : DetailDefinition) : splitOwned d "" = ("", none) := by
  unfold splitOwned
  split <;> rfl

theorem fieldValue_empty (ids : IdCache) (f : FieldDefinition) : fieldValue ids f "" = none := by
  rw [fieldValue, if_pos rfl]

theorem addCustom?_empty (x : Detail) (f : FieldDefinition) : addCustom? x f "" = none :=
  rfl

theorem setsValue_empty (draft : Draft) (token : Token) :
    setsValue frame d draft (token, "") = false := by
  cases token with
  | uri => rfl
  | value i => simp [setsValue, splitOwned_empty, fieldValue_empty]
  | custom i => rw [setsValue, addCustom?_empty, Option.isSome_none]
  | classes i => rfl

/-- There is nothing to an instance whose only part is empty. -/
theorem instanceOf_zip_empty (tokens : List Token) :
    instanceOf frame d (tokens.zip [""]) = none := by
  cases tokens with
  | nil => rfl
  | cons token tokens => simp [instanceOf, anySetsValue, setsValue_empty]

/-! ## Reading parts -/

theorem readToken_eq (filling : Filling) (token : Token) (text : String) :
    readToken frame d filling token text =
      ⟨withPart frame d filling.draft (token, text),
        filling.hasData || setsValue frame d filling.draft (token, text)⟩ := by
  cases token with
  | uri =>
    by_cases h : text = "" <;> simp [readToken, withPart, setsValue, h]
  | value i =>
    cases h : fieldValue frame.ids (d.fieldAt i) (splitOwned d text).1 <;>
      simp [readToken, withPart, setsValue, h, setIfSome]
  | custom i =>
    cases h : addCustom? filling.draft.detail (d.fieldAt i) text <;>
      simp [readToken, withPart, setsValue, h]
  | classes i => simp [readToken, withPart, setsValue]

/-- Reading parts against tokens is adding them one after the other. -/
theorem readTokens_eq (tokens : List Token) (texts : List String) (filling : Filling) :
    readTokens frame d tokens texts filling =
      ⟨(tokens.zip texts).foldl (withPart frame d) filling.draft,
        filling.hasData || anySetsValue frame d filling.draft (tokens.zip texts)⟩ := by
  induction tokens generalizing texts filling with
  | nil => simp [readTokens, anySetsValue]
  | cons token tokens ih =>
    cases texts with
    | nil => simp [readTokens, anySetsValue]
    | cons text texts =>
      rw [readTokens, ih, readToken_eq, List.zip_cons_cons, List.foldl_cons, anySetsValue,
        Bool.or_assoc]

theorem readItem_eq (tokens : List Token) (item : String) :
    readItem frame d tokens item = instanceOf frame d (tokens.zip (Packed.fields item)) := by
  simp only [readItem, instanceOf, readTokens_eq, Bool.false_or]

/-! ## Reading joined texts -/

theorem readItem_join (tokens : List Token) {texts : List String} (hne : texts ≠ [])
    (hfree : ∀ t ∈ texts, Packed.field ∉ t.toList) :
    readItem frame d tokens (Packed.join Packed.field texts) =
      instanceOf frame d (tokens.zip texts) := by
  rw [readItem_eq, Packed.fields, Packed.parts_join hne hfree]

/-- There is nothing to an instance whose parts join to the empty text. -/
theorem instanceOf_eq_none_of_join_eq_empty (tokens : List Token) {texts : List String}
    (h : Packed.join Packed.field texts = "") : instanceOf frame d (tokens.zip texts) = none := by
  rcases Packed.join_eq_empty h with rfl | rfl
  · simp [instanceOf, anySetsValue]
  · exact instanceOf_zip_empty tokens

/-- Reading a cell makes of each instance what its parts make of it, in order. -/
theorem readItems_cell (tokens : List Token) {texts : List (List String)}
    (hfree : ∀ ts ∈ texts, ∀ t ∈ ts, Packed.detail ∉ t.toList ∧ Packed.field ∉ t.toList) :
    readItems frame d tokens (Packed.cell texts) =
      texts.filterMap fun ts => instanceOf frame d (tokens.zip ts) := by
  rw [readItems, Packed.detailItems_cell fun ts hts t ht => (hfree ts hts t ht).1,
    List.filterMap_filter, List.filterMap_map]
  refine List.filterMap_congr fun ts hts => ?_
  by_cases h : Packed.join Packed.field ts = ""
  · -- the reader drops the item, and its parts would not have made an instance either
    rw [instanceOf_eq_none_of_join_eq_empty tokens h]
    simp [h]
  · have hne : ts ≠ [] := by
      rintro rfl
      exact h rfl
    rw [← readItem_join tokens hne fun t ht => (hfree ts hts t ht).2]
    simp [h]

/-! ## Reading columns -/

/-- Every column of a detail that can be many is read as it was made. When the parts of each of its
resources have texts without separators, the column has a text too, and reading it gives in the
order of the resources the instances that their parts make. -/
theorem readItems_column (frame : Frame) (d : DetailDefinition) {first n c : Nat}
    (hc : c ∈ (Layout.multi (multiColumns d first n).1.2).columns) :
    ∃ a, (aggregates d n).1[c - first]? = some a ∧
      (multiColumns d first n).1.1[c - first]? = some (guarded d a.expr) ∧
      (multiColumns d first n).1.2.tokens.length = a.parts.length ∧
      ∀ (T : Store) (β : Valuation) (texts : List (List String)),
        (T.resources d β a).map (fun ρ => a.parts.map (T.value [] ρ)) =
          texts.map (List.map fun t => some (.text t)) →
        (∀ ts ∈ texts, ∀ t ∈ ts, Packed.detail ∉ t.toList ∧ Packed.field ∉ t.toList) →
        ∃ text, T.value [] β (guarded d a.expr) = some (.text text) ∧
          readItems frame d (multiColumns d first n).1.2.tokens text =
            texts.filterMap fun ts =>
              instanceOf frame d ((multiColumns d first n).1.2.tokens.zip ts) := by
  rw [columns_multiColumns, List.mem_range'_1, exprs_multiColumns, List.length_map] at hc
  have hlt : c - first < (aggregates d n).1.length := by omega
  have hget := List.getElem?_eq_getElem hlt
  obtain ⟨main, subTypes, heq, -⟩ := multiColumns_eq d first n
  have htokens : (multiColumns d first n).1.2.tokens = tokensOf d := by rw [heq]
  refine ⟨_, hget, by rw [exprs_multiColumns, List.getElem?_map, hget, Option.map_some], ?_, ?_⟩
  · rw [htokens]
    exact (length_parts_of_mem (tokensOf d) (List.getElem_mem hlt)).symm
  · intro T β texts hparts hfree
    exact ⟨_, Store.value_guarded_expr hparts, readItems_cell _ hfree⟩

/-- Phone numbers with the graphs they come from and their sub-types. -/
def phones : DetailDefinition :=
  { name := Names.phoneNumber, unique := false, hasOwner := true, dependencies := []
    chain := [{ iri := Nco.hasPhoneNumber, identifies := true }]
    fields := [
      { name := Names.phoneNumber, type := .text, chain := [{ iri := Nco.phoneNumber }] },
      { name := Names.subTypes, type := .list,
        subTypes := some (.byClass [⟨Nco.cellPhoneNumber, "Mobile"⟩]) }] }

/-- Anna with two mobile phones, of which only the first has a number. -/
def phoneStore : Store :=
  { triples := [
      ⟨.resource "anna", Nco.hasPhoneNumber, .resource "tel:1", some "book"⟩,
      ⟨.resource "tel:1", Nco.phoneNumber, .text "12345", none⟩,
      ⟨.resource "tel:1", Rdf.type, .resource Nco.cellPhoneNumber, none⟩,
      ⟨.resource "anna", Nco.hasPhoneNumber, .resource "tel:2", some "book"⟩,
      ⟨.resource "tel:2", Rdf.type, .resource Nco.cellPhoneNumber, none⟩]
    number := fun iri => if iri = Nco.cellPhoneNumber then some 301 else none }

/-- A reader that knows the class of mobile phones by its number. -/
def phoneFrame : Frame :=
  { settings := {}, ids := IdCache.insert {} Nco.cellPhoneNumber 301 }

/-- Of Anna's phones the first is read back, and the second is left out. -/
theorem readItems_phones :
    ∃ e text, (multiColumns phones 4 0).1.1[0]? = some e ∧
      phoneStore.value [] (Valuation.contact "anna") e = some (.text text) ∧
      (readItems phoneFrame phones (multiColumns phones 4 0).1.2.tokens text).map
          (fun draft => (draft.detail.uri, draft.detail.text Names.phoneNumber,
            draft.detail.value? Names.subTypes, draft.graphs)) =
        [(some "tel:1", "12345", some (.list ["Mobile"]), ["book"])] := by
  have hc : 4 ∈ (Layout.multi (multiColumns phones 4 0).1.2).columns := by decide
  obtain ⟨a, ha, he, -, hread⟩ := readItems_column phoneFrame phones hc
  obtain rfl : (aggregates phones 0).1[0] = a := Option.some.inj ha
  obtain ⟨text, hvalue, hitems⟩ := hread phoneStore (Valuation.contact "anna")
    [["tel:1", "12345\x1cbook", "301"], ["tel:2", "\x1cbook", "301"]] (by decide) (by decide)
  refine ⟨_, text, he, hvalue, ?_⟩
  rw [hitems]
  rfl

end ContactGraph.Result
