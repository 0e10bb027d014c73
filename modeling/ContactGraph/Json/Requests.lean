import ContactGraph.Json.Contacts
import ContactGraph.Request
import ContactGraph.Settings

/-!
# Requests and settings as JSON

How filters, sort orders, hints and settings are written as JSON and read from it. Conditions
combined by intersection and union are read by recursion on the JSON value, whose members are
smaller than it.

Filters are read more leniently than anything else. As an array a filter is its kind followed by the
members of that kind; a filter that is part of another may write its kind as a number; and beside
the name of a word inside a filter an object without members stands for null.
-/

namespace ContactGraph

open Json

namespace SortOrder

/-- A sort order; no member may be missing. -/
def ofJson? (j : Json) : Option SortOrder := do
  let j ← j.record? ["detail", "field", "direction", "case_sensitive", "blank_policy"]
  pure ⟨← j.required "detail" text?, ← j.required "field" text?,
    ← j.required "direction" (named? SortDirection.ofName?), ← j.required "case_sensitive" bool?,
    ← j.required "blank_policy" (named? BlankPolicy.ofName?)⟩

/-- A sort order with all its members. -/
def toJson (o : SortOrder) : Json :=
  .object [("detail", .text o.detail), ("field", .text o.field),
    ("direction", .text o.direction.name), ("case_sensitive", .bool o.caseSensitive),
    ("blank_policy", .text o.blanks.name)]

end SortOrder

namespace FetchHint

/-- A hint; only the count may be missing. -/
def ofJson? (j : Json) : Option FetchHint := do
  let j ← j.record? ["detail_names", "relationship_types", "no_relationships", "max_count"]
  pure ⟨← j.required "detail_names" texts?, ← j.required "relationship_types" texts?,
    ← j.required "no_relationships" bool?, ← j.optional "max_count" count?⟩

/-- A hint with all its members. -/
def toJson (h : FetchHint) : Json :=
  .object [("detail_names", ofTexts h.details), ("relationship_types", ofTexts h.relationships),
    ("no_relationships", .bool h.noRelationships),
    ("max_count", (h.maxCount.map ofNat).getD .null)]

end FetchHint

/-- A word of a fixed set inside a filter, as text or as the name of something empty. -/
def Filter.named? {α : Type} (ofName? : String → Option α) : Json → Option α :=
  namedBy? isHollow ofName?

/-- A value inside a filter. -/
def Filter.value? : Json → Option Value :=
  Value.readBy? isHollow

namespace MatchFlags

/-- How values are compared. -/
def ofJson? (j : Json) : Option MatchFlags := do
  let j ← j.record? ["mode", "case_sensitive"]
  pure ⟨← j.required "mode" (Filter.named? MatchMode.ofName?),
    ← j.required "case_sensitive" bool?⟩

/-- How values are compared. -/
def toJson (flags : MatchFlags) : Json :=
  .object [("mode", .text flags.mode.name), ("case_sensitive", .bool flags.caseSensitive)]

end MatchFlags

namespace RangeFlags

/-- Which ends of a range belong to it. -/
def ofJson? (j : Json) : Option RangeFlags := do
  let j ← j.record? ["exclude_lower", "include_upper"]
  pure ⟨← j.required "exclude_lower" bool?, ← j.required "include_upper" bool?⟩

/-- Which ends of a range belong to it. -/
def toJson (flags : RangeFlags) : Json :=
  .object [("exclude_lower", .bool flags.excludeLower), ("include_upper", .bool flags.includeUpper)]

end RangeFlags

namespace DetailFilter

/-- A condition on a detail; field and value may be missing. -/
def ofJson? (j : Json) : Option DetailFilter := do
  pure ⟨← j.required "detail" text?, ← j.optional "field" text?,
    ← j.optional "value" Filter.value?, ← j.required "flags" MatchFlags.ofJson?⟩

/-- The members of a condition on a detail. -/
def members (f : DetailFilter) : List (String × Json) :=
  [("detail", .text f.detail), ("field", Json.ofText? f.field),
    ("value", (f.value.map Value.toJson).getD .null), ("flags", f.flags.toJson)]

end DetailFilter

namespace RangeFilter

/-- A range; its ends may be missing. -/
def ofJson? (j : Json) : Option RangeFilter := do
  pure ⟨← j.required "detail" text?, ← j.required "field" text?, ← j.optional "min" Filter.value?,
    ← j.optional "max" Filter.value?, ← j.required "range" RangeFlags.ofJson?,
    ← j.required "flags" MatchFlags.ofJson?⟩

/-- The members of a range. -/
def members (f : RangeFilter) : List (String × Json) :=
  [("detail", .text f.detail), ("field", .text f.field),
    ("min", (f.min.map Value.toJson).getD .null), ("max", (f.max.map Value.toJson).getD .null),
    ("range", f.range.toJson), ("flags", f.flags.toJson)]

end RangeFilter

namespace ChangeFilter

/-- An event and a point in time. -/
def ofJson? (j : Json) : Option ChangeFilter := do
  pure ⟨← j.required "event" (Filter.named? ChangeEvent.ofName?), ← j.required "since" instant?⟩

/-- The members of a change. -/
def members (f : ChangeFilter) : List (String × Json) :=
  [("event", .text f.event.name), ("since", .text f.since.stamp)]

end ChangeFilter

namespace RelationshipFilter

/-- A relationship; the manager may be missing. -/
def ofJson? (j : Json) : Option RelationshipFilter := do
  pure ⟨← j.required "relationship_type" text?, ← j.required "related_contact" word?,
    ← j.optional "related_manager" text?,
    ← j.required "role" (Filter.named? RelationshipRole.ofName?)⟩

/-- The members of a relationship. -/
def members (f : RelationshipFilter) : List (String × Json) :=
  [("relationship_type", .text f.type), ("related_contact", ofWord f.contact),
    ("related_manager", Json.ofText? f.manager), ("role", .text f.role.name)]

end RelationshipFilter

namespace Filter

/-- The names of the kinds, by number. -/
def kinds : List String :=
  ["default", "invalid", "local_id", "detail", "detail_range", "change_log", "relationship",
    "intersection", "union"]

/-- The names of the members of a kind, in order. -/
def memberNames : String → List String
  | "local_id" => ["ids"]
  | "detail" => ["detail", "field", "value", "flags"]
  | "detail_range" => ["detail", "field", "min", "max", "range", "flags"]
  | "change_log" => ["event", "since"]
  | "relationship" => ["relationship_type", "related_contact", "related_manager", "role"]
  | "intersection" => ["filters"]
  | "union" => ["filters"]
  | _ => []

/-- The name of a kind; inside another filter its number will do. -/
def kind? (inside : Bool) : Json → Option String
  | .text name => some name
  | .integer i => if inside ∧ 0 ≤ i then kinds[i.toNat]? else none
  | _ => none

/-- The kind of a filter, and its members as an object. -/
def split? (inside : Bool) (j : Json) : Option (String × Json) :=
  match j with
  | .array (k :: items) => do
    let kind ← kind? inside k
    pure (kind, ← (Json.array items).record? (memberNames kind))
  | _ => do pure (← j.required "kind" (kind? inside), j)

/-- The filters of an intersection or a union, each smaller than the whole. -/
def parts? (j : Json) : Option (List { part : Json // sizeOf part < sizeOf j }) :=
  match j with
  | .array [k, .array items] => some (items.attach.map fun i => ⟨i.1, by
      have hi := List.sizeOf_lt_of_mem i.2
      simp only [array.sizeOf_spec, List.cons.sizeOf_spec]
      omega⟩)
  | .object members => (Json.object members).itemsOf? "filters"
  | _ => none

/-- A filter, after its kind, alone or inside another filter. -/
def readIn? (inside : Bool) (j : Json) : Option Filter := do
  let (kind, members) ← split? inside j
  match kind with
  | "default" => pure .everything
  | "invalid" => pure .nothing
  | "local_id" => (members.required "ids" (list? word?)).map .ids
  | "detail" => (DetailFilter.ofJson? members).map .detail
  | "detail_range" => (RangeFilter.ofJson? members).map .range
  | "change_log" => (ChangeFilter.ofJson? members).map .change
  | "relationship" => (RelationshipFilter.ofJson? members).map .relationship
  | "intersection" => do
    let parts ← parts? j
    pure (.intersection (← parts.mapM fun part => readIn? true part.1))
  | "union" => do
    let parts ← parts? j
    pure (.union (← parts.mapM fun part => readIn? true part.1))
  | _ => none
termination_by sizeOf j
decreasing_by all_goals exact part.2

/-- A filter, after its kind. -/
def ofJson? : Json → Option Filter :=
  readIn? false

/-- An object of a kind. -/
def ofKind (kind : String) (members : List (String × Json)) : Json :=
  .object (("kind", .text kind) :: members)

/-- A filter with its kind. -/
def toJson : Filter → Json
  | .everything => ofKind "default" []
  | .nothing => ofKind "invalid" []
  | .ids numbers => ofKind "local_id" [("ids", .array (numbers.map ofWord))]
  | .detail f => ofKind "detail" f.members
  | .range f => ofKind "detail_range" f.members
  | .change f => ofKind "change_log" f.members
  | .relationship f => ofKind "relationship" f.members
  | .intersection fs => ofKind "intersection" [("filters", .array (fs.map toJson))]
  | .union fs => ofKind "union" [("filters", .array (fs.map toJson))]

end Filter

/-- A request; every member may be missing. -/
def Request.ofJson? (j : Json) : Option Request := do
  pure {
    filter := ← j.orDefault "filter" Filter.ofJson? .everything
    sorting := ← j.orDefault "sorting" (list? SortOrder.ofJson?) []
    hint := ← j.orDefault "fetch_hint" FetchHint.ofJson? {} }

/-- Settings; every member may be missing, none may be null. -/
def Settings.ofJson? (j : Json) : Option Settings := do
  let given : Settings := {}
  let j ← j.shortRecord? ["manager_uri", "default_graph", "local_phone_number_length",
    "name_order", "prefer_nickname", "telepathy_graph_prefix", "include_self_contact",
    "custom_field_types"]
  pure {
    managerUri := ← j.unlessMissing "manager_uri" text? given.managerUri
    defaultGraph := ← j.unlessMissing "default_graph" text? given.defaultGraph
    phoneDigits := ← j.unlessMissing "local_phone_number_length" count? given.phoneDigits
    nameOrder := ← j.unlessMissing "name_order" (named? NameOrder.ofName?) given.nameOrder
    preferNickname := ← j.unlessMissing "prefer_nickname" bool? given.preferNickname
    linkedGraphStart := ← j.unlessMissing "telepathy_graph_prefix" text? given.linkedGraphStart
    includeSelf := ← j.unlessMissing "include_self_contact" bool? given.includeSelf
    customTypes := ← j.unlessMissing "custom_field_types" (map? ValueType.ofJson?) ∅ }

end ContactGraph
