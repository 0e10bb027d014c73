import ContactGraph.Result.FieldText
import ContactGraph.Result.Row
import ContactGraph.Settings
import ContactGraph.Text.Case

/-!
# Details from rows

How the columns of a detail become details of a contact. A `Draft` is a detail in the making
together with the graphs its values come from; `finish` draws the consequences : values of a
foreign graph are read-only, a URI is given its scheme, and the label of the affiliation is the
context.
-/

namespace ContactGraph.Result

open Query

/-- What reading results refers to. -/
structure Frame where
  /-- The settings of the store. -/
  settings : Settings
  /-- The known ids of resources. -/
  ids : IdCache

/-- The affiliation of a row. -/
structure Affiliation where
  /-- The resource. -/
  iri : Option String
  /-- Its label. -/
  label : String
  deriving DecidableEq, Repr, Inhabited

/-- A detail in the making. -/
structure Draft where
  /-- The detail so far. -/
  detail : Detail
  /-- The graphs of its values so far, without repetition. -/
  graphs : List String := []

/-- The value and the graph of a raw text, when values carry graphs. A text without a graph is a
value. -/
def splitOwned (d : DetailDefinition) (raw : String) : String × Option String :=
  if d.hasOwner then
    match Packed.splitGraph? raw with
    | some (value, graph) => (value, some graph)
    | none => (raw, none)
  else (raw, none)

/-- The graphs with one more, unless it has no name. -/
def addGraph (graphs : List String) : Option String → List String
  | none => graphs
  | some g => if g = "" then graphs else Detail.addUri graphs g

/-! ## Finishing -/

/-- Marks what the graph of a value means for a detail. -/
def markGraph (settings : Settings) (d : Detail) (graph : String) : Detail :=
  let d := if graph ≠ settings.defaultGraph then { d with readOnly := true } else d
  if settings.linkedGraphStart.toList.isPrefixOf graph.toList && d.uri ≠ some graph then
    d.link graph
  else d

/-- A URI in a scheme. -/
def inScheme (scheme uri : String) : String :=
  match Packed.splitOnce? ':' uri with
  | some (_, rest) => scheme ++ ":" ++ rest
  | none => scheme ++ ":" ++ uri

/-- Gives the URI of a detail its scheme and links the detail to its former URI. -/
def giveScheme (d : Detail) : Option String → Detail
  | none => d
  | some scheme =>
    match d.uri with
    | none => d
    | some uri =>
      if (scheme ++ ":").toList.isPrefixOf uri.toList then d
      else { d with uri := some (inScheme scheme uri) }.link uri

/-- Gives a detail the context of its affiliation. -/
def giveContext (definition : DetailDefinition) (label : String) (d : Detail) : Detail :=
  if definition.hasContext && label ≠ "" then { d with context := some (Text.capitalize label) }
  else d

/-- Draws the consequences of where a detail comes from. -/
def finish (frame : Frame) (definition : DetailDefinition) (affiliation : Affiliation)
    (draft : Draft) : Detail :=
  let marked := draft.graphs.foldl (markGraph frame.settings) draft.detail
  giveContext definition affiliation.label (giveScheme marked definition.uriScheme)

/-! ## Unique details -/

/-- Adds the column of a value to a draft. -/
def readSlot (frame : Frame) (definition : DetailDefinition) (row : Row) (draft : Draft)
    (slot : Slot) : Draft :=
  let f := definition.fieldAt slot.field
  let raw := row.text slot.column
  if slot.custom then { draft with detail := (addCustom? draft.detail f raw).getD draft.detail }
  else
    let (value, graph) := splitOwned definition raw
    ⟨setIfSome draft.detail f.name (fieldValue frame.ids f value), addGraph draft.graphs graph⟩

/-- The labels of the sub-types whose columns are not empty. -/
def presentLabels (row : Row) (columns : List SubTypeColumn) : List String :=
  (columns.filter fun c => row.text c.column ≠ "").map (·.label)

/-- The URI of a unique detail. -/
def uriOf (row : Row) (affiliation : Affiliation) : Option UriSource → Option String
  | none => none
  | some .affiliation => affiliation.iri
  | some (.column column) => (Packed.listItems (row.text column)).head?

/-- A unique detail, unless no field has a value. -/
def readUnique (frame : Frame) (definition : DetailDefinition) (layout : UniqueLayout) (row : Row)
    (affiliation : Affiliation) : Option Detail :=
  let draft := layout.slots.foldl (readSlot frame definition row) ⟨{ name := definition.name }, []⟩
  if draft.detail.isEmpty then none
  else
    let typed := match layout.subTypeField with
      | none => draft.detail
      | some i =>
        let f := definition.fieldAt i
        setIfSome draft.detail f.name (subTypeValue f (presentLabels row layout.subTypeColumns))
    let located := { typed with uri := uriOf row affiliation layout.uri }
    some (finish frame definition affiliation ⟨located, draft.graphs⟩)

/-! ## Details that can be many -/

/-- A draft, and whether a field was given a value. -/
structure Filling where
  /-- The draft. -/
  draft : Draft
  /-- Whether a field was given a value. -/
  hasData : Bool := false

/-- Adds one part of an instance to a draft. -/
def readToken (frame : Frame) (definition : DetailDefinition) (filling : Filling) (token : Token)
    (raw : String) : Filling :=
  let d := filling.draft.detail
  match token with
  | .uri =>
    if raw = "" then filling
    else { filling with draft := { filling.draft with detail := { d with uri := some raw } } }
  | .value i =>
    let f := definition.fieldAt i
    let (value, graph) := splitOwned definition raw
    let graphs := addGraph filling.draft.graphs graph
    match fieldValue frame.ids f value with
    | some v => ⟨⟨d.set f.name v, graphs⟩, true⟩
    | none => { filling with draft := ⟨d, graphs⟩ }
  | .custom i =>
    match addCustom? d (definition.fieldAt i) raw with
    | some d => ⟨{ filling.draft with detail := d }, true⟩
    | none => filling
  | .classes i =>
    let f := definition.fieldAt i
    { filling with
      draft := { filling.draft with detail := setIfSome d f.name (classValue frame.ids f raw) } }

/-- Adds the parts of an instance to a draft, as many as there are. -/
def readTokens (frame : Frame) (definition : DetailDefinition) :
    List Token → List String → Filling → Filling
  | token :: tokens, raw :: raws, filling =>
    readTokens frame definition tokens raws (readToken frame definition filling token raw)
  | _, _, filling => filling

/-- One instance, unless no field has a value. -/
def readItem (frame : Frame) (definition : DetailDefinition) (tokens : List Token)
    (item : String) : Option Draft :=
  let filling := readTokens frame definition tokens (Packed.fields item)
    ⟨⟨{ name := definition.name }, []⟩, false⟩
  if filling.hasData then some filling.draft else none

/-- The instances in a cell. -/
def readItems (frame : Frame) (definition : DetailDefinition) (tokens : List Token)
    (raw : String) : List Draft :=
  (Packed.detailItems raw).filterMap (readItem frame definition tokens)

/-- The labels of the sub-types in whose columns an instance stands too. -/
def matchingLabels (bySubType : List (String × List Detail)) (d : Detail) : List String :=
  (bySubType.filter fun (_, details) => details.any (· == d)).map (·.1)

/-- The instances of a detail in a row. -/
def readMulti (frame : Frame) (definition : DetailDefinition) (layout : MultiLayout) (row : Row)
    (affiliation : Affiliation) : List Detail :=
  let bySubType := layout.subTypeColumns.map fun c =>
    (c.label, (readItems frame definition layout.tokens (row.text c.column)).map (·.detail))
  (readItems frame definition layout.tokens (row.text layout.main)).map fun draft =>
    let typed := match layout.subTypeField with
      | none => draft.detail
      | some i =>
        let f := definition.fieldAt i
        setIfSome draft.detail f.name (subTypeValue f (matchingLabels bySubType draft.detail))
    finish frame definition affiliation ⟨typed, draft.graphs⟩

end ContactGraph.Result
