import ContactGraph.Proofs.Result.Details

/-!
# Where values come from

The typed parts of an instance carry the graphs that they come from, when the detail has an owner
(`graphsOf`). A draft collects them without repetition and in order, whether the parts can be read
or not (`draftOf_graphs`), and what is drawn from them in the end is whether the detail can be
changed and what it links to (`IsDrawnFrom`). So a detail is read-only just when some typed part is
of a graph other than the default one, and it links to the linked graphs among them, and to the URI
that it had before it was given one in a scheme (`isDrawnFrom_read`).
-/

namespace ContactGraph

open Query

namespace Result

variable {frame : Frame} {d : DetailDefinition} {row : Row} {x : Detail}
  {parts : List (Token × String)} {graphs : List String} {settings : Settings}

/-- The graph that a typed part carries, when the detail has an owner. -/
def graphOf? (d : DetailDefinition) : Token × String → Option String
  | (.value _, text) => if d.hasOwner then (Packed.splitGraph? text).map (·.2) else none
  | _ => none

/-- The graphs that parts carry, in order. -/
def graphsOf (d : DetailDefinition) (parts : List (Token × String)) : List String :=
  parts.filterMap (graphOf? d)

/-- The URI that a part says. -/
def uriOf? : Token × String → Option String
  | (.uri, text) => if text = "" then none else some text
  | _ => none

/-- The URI among parts, the last one when there are several. -/
def uriIn (parts : List (Token × String)) : Option String :=
  (parts.filterMap uriOf?).getLast?

/-- What is drawn from the graphs of a detail and from the URI that it has in the store, which may
be given a scheme. -/
structure IsDrawnFrom (settings : Settings) (scheme : Option String) (graphs : List String)
    (uri : Option String) (x : Detail) : Prop where
  /-- It can be changed unless it has something of a graph other than the default one. -/
  readOnly_iff : x.readOnly = true ↔ ∃ g ∈ graphs, g ≠ "" ∧ g ≠ settings.defaultGraph
  /-- Its URI is another when it does not start with the scheme. -/
  uri_ne_iff : x.uri ≠ uri ↔
    ∃ start u, scheme = some start ∧ uri = some u ∧ ¬ (start ++ ":").toList <+: u.toList
  /-- It links to the linked graphs in order, and to the URI when it was given another. -/
  links_eq : x.links = ((graphs.filter (· ≠ "")).eraseDups.filter fun g =>
      settings.linkedGraphStart.toList <+: g.toList ∧ uri ≠ some g) ++
    if x.uri = uri then [] else uri.toList
  /-- It links to nothing twice. -/
  nodup_links : x.links.Nodup

/-! ## Drafts -/

theorem draftOf_concat (parts : List (Token × String)) (p : Token × String) :
    draftOf frame d (parts ++ [p]) = withPart frame d (draftOf frame d parts) p :=
  List.foldl_append ..

theorem splitOwned_snd (d : DetailDefinition) (i : Nat) (text : String) :
    (splitOwned d text).2 = graphOf? d (.value i, text) := by
  show _ = if d.hasOwner then (Packed.splitGraph? text).map (·.2) else none
  rw [splitOwned]
  cases d.hasOwner <;> cases Packed.splitGraph? text <;> rfl

theorem withPart_graphs (draft : Draft) (p : Token × String) :
    (withPart frame d draft p).graphs = addGraph draft.graphs (graphOf? d p) := by
  obtain ⟨token, text⟩ := p
  cases token with
  | uri => by_cases h : text = "" <;> simp [withPart, graphOf?, addGraph, h]
  | value i => exact congrArg (addGraph draft.graphs) (splitOwned_snd d i text)
  | custom i => rfl
  | classes i => rfl

theorem addGraph_eraseDups (graphs : List String) (graph : Option String) :
    addGraph graphs.eraseDups graph =
      (graphs ++ graph.toList.filter (· ≠ "")).eraseDups := by
  cases graph with
  | none => simp [addGraph]
  | some g =>
    by_cases h : g = ""
    · simp [addGraph, h]
    · simp [addGraph, h, eraseDups_concat, Detail.addUri]

/-- A draft collects graphs that have a name, without repetition and in order. -/
theorem draftOf_graphs (parts : List (Token × String)) :
    (draftOf frame d parts).graphs = ((graphsOf d parts).filter (· ≠ "")).eraseDups := by
  induction parts using List.reverseRecOn with
  | nil => rfl
  | append_singleton parts p ih =>
    have hlast : graphsOf d (parts ++ [p]) = graphsOf d parts ++ (graphOf? d p).toList := by
      rw [graphsOf, List.filterMap_append, ← graphsOf]
      cases h : graphOf? d p <;> simp [h]
    rw [draftOf_concat, withPart_graphs, ih, addGraph_eraseDups, hlast, List.filter_append]

theorem setIfSome_origin (x : Detail) (field : String) (value : Option Value) :
    (setIfSome x field value).links = x.links ∧ (setIfSome x field value).readOnly = x.readOnly ∧
      (setIfSome x field value).uri = x.uri := by
  cases value <;> exact ⟨rfl, rfl, rfl⟩

/-- A part changes neither links nor the mark, and only one that is a URI the URI. -/
theorem withPart_origin (draft : Draft) (p : Token × String) :
    (withPart frame d draft p).detail.links = draft.detail.links ∧
      (withPart frame d draft p).detail.readOnly = draft.detail.readOnly ∧
      (withPart frame d draft p).detail.uri = (uriOf? p).or draft.detail.uri := by
  obtain ⟨token, text⟩ := p
  cases token with
  | uri => by_cases h : text = "" <;> simp [withPart, uriOf?, h]
  | value i => exact setIfSome_origin draft.detail _ _
  | custom i =>
    have hdetail : (withPart frame d draft (.custom i, text)).detail =
        (addCustom? draft.detail (d.fieldAt i) text).getD draft.detail := rfl
    rw [hdetail]
    cases h : addCustom? draft.detail (d.fieldAt i) text with
    | none => exact ⟨rfl, rfl, rfl⟩
    | some y =>
      obtain ⟨-, ⟨there, -, rfl⟩ | ⟨v, -, rfl⟩⟩ := addCustom?_eq_some h <;> exact ⟨rfl, rfl, rfl⟩
  | classes i => exact setIfSome_origin draft.detail _ _

theorem draftOf_origin (parts : List (Token × String)) :
    (draftOf frame d parts).detail.links = [] ∧
      (draftOf frame d parts).detail.readOnly = false ∧
      (draftOf frame d parts).detail.uri = uriIn parts := by
  induction parts using List.reverseRecOn with
  | nil => exact ⟨rfl, rfl, rfl⟩
  | append_singleton parts p ih =>
    obtain ⟨hlinks, hreadOnly, huri⟩ := @withPart_origin frame d (draftOf frame d parts) p
    rw [draftOf_concat, hlinks, hreadOnly, huri, ih.1, ih.2.1, ih.2.2, uriIn, uriIn,
      List.filterMap_append]
    refine ⟨rfl, rfl, ?_⟩
    cases h : uriOf? p <;> simp [h]

/-! ## Finishing -/

@[simp] theorem markGraph_uri (settings : Settings) (x : Detail) (graph : String) :
    (markGraph settings x graph).uri = x.uri := by
  unfold markGraph
  dsimp only
  split <;> split <;> rfl

theorem markGraph_readOnly (settings : Settings) (x : Detail) (graph : String) :
    (markGraph settings x graph).readOnly = true ↔
      x.readOnly = true ∨ graph ≠ settings.defaultGraph := by
  unfold markGraph
  dsimp only
  split <;> split <;> simp_all [Detail.link]

theorem markGraph_links (settings : Settings) (x : Detail) (graph : String) :
    (markGraph settings x graph).links =
      if settings.linkedGraphStart.toList <+: graph.toList ∧ x.uri ≠ some graph then
        Detail.addUri x.links graph
      else x.links := by
  unfold markGraph
  dsimp only
  split <;> split <;> simp_all [Detail.link]

theorem foldl_markGraph_uri (settings : Settings) (x : Detail) (graphs : List String) :
    (graphs.foldl (markGraph settings) x).uri = x.uri :=
  List.foldlRecOn (motive := fun y : Detail => y.uri = x.uri) graphs _ rfl
    fun y h graph _ => (markGraph_uri settings y graph).trans h

theorem foldl_markGraph_readOnly (settings : Settings) (x : Detail) (graphs : List String) :
    (graphs.foldl (markGraph settings) x).readOnly = true ↔
      x.readOnly = true ∨ ∃ g ∈ graphs, g ≠ settings.defaultGraph := by
  induction graphs generalizing x with
  | nil => simp
  | cons g graphs ih => simp [ih, markGraph_readOnly, or_assoc]

/-- Of different graphs the linked ones become links, in order. -/
theorem foldl_markGraph_links (settings : Settings) (hx : x.links = []) (h : graphs.Nodup) :
    (graphs.foldl (markGraph settings) x).links = graphs.filter fun g =>
      settings.linkedGraphStart.toList <+: g.toList ∧ x.uri ≠ some g := by
  induction graphs using List.reverseRecOn with
  | nil => exact hx
  | append_singleton graphs g ih =>
    obtain ⟨hfront, -, hnew⟩ := List.nodup_append.mp h
    have hnew : g ∉ graphs := fun hg => hnew g hg g (List.mem_singleton_self g) rfl
    rw [List.foldl_append, List.foldl_cons, List.foldl_nil, markGraph_links, foldl_markGraph_uri,
      ih hfront, List.filter_append]
    split
    · rename_i hlinked
      rw [List.filter_cons, List.filter_nil, if_pos (decide_eq_true hlinked)]
      simp [Detail.addUri, hnew]
    · rename_i hlinked
      rw [List.filter_cons_of_neg (by simpa using hlinked), List.filter_nil, List.append_nil]

/-- A URI in a scheme starts with it. -/
theorem prefix_inScheme (scheme uri : String) :
    (scheme ++ ":").toList <+: (inScheme scheme uri).toList := by
  unfold inScheme
  split <;> simp [List.append_assoc]

/-- A detail has another URI when it does not start with the scheme. -/
theorem giveScheme_uri_ne_iff (x : Detail) (scheme : Option String) :
    (giveScheme x scheme).uri ≠ x.uri ↔
      ∃ start u, scheme = some start ∧ x.uri = some u ∧ ¬ (start ++ ":").toList <+: u.toList := by
  unfold giveScheme
  split
  · simp
  · rename_i start
    split
    · simp_all
    · rename_i uri huri
      split
      · rename_i hstart
        simp_all
      · rename_i hstart
        have hne : inScheme start uri ≠ uri := fun heq =>
          hstart (List.isPrefixOf_iff_prefix.mpr (heq ▸ prefix_inScheme start uri))
        simp_all [Detail.link]

/-- A detail links to the URI that it gave up for one in a scheme. -/
theorem giveScheme_origin (scheme : Option String) (h : ∀ u, x.uri = some u → u ∉ x.links) :
    (giveScheme x scheme).readOnly = x.readOnly ∧
      (giveScheme x scheme).links =
        x.links ++ if (giveScheme x scheme).uri = x.uri then [] else x.uri.toList := by
  have hchanged := giveScheme_uri_ne_iff x scheme
  unfold giveScheme at hchanged ⊢
  split
  · simp
  · split
    · simp
    · rename_i uri huri
      split
      · simp
      · simp_all [Detail.link, Detail.addUri]

theorem giveContext_origin (d : DetailDefinition) (label : String) (x : Detail) :
    (giveContext d label x).readOnly = x.readOnly ∧ (giveContext d label x).links = x.links ∧
      (giveContext d label x).uri = x.uri := by
  unfold giveContext
  split <;> exact ⟨rfl, rfl, rfl⟩

/-- What is drawn in the end is drawn from the graphs of a draft and its URI. -/
theorem isDrawnFrom_finish (frame : Frame) (d : DetailDefinition) (affiliation : Affiliation)
    (draft : Draft) (hlinks : draft.detail.links = []) (hreadOnly : draft.detail.readOnly = false)
    (hgraphs : draft.graphs = (graphs.filter (· ≠ "")).eraseDups) :
    IsDrawnFrom frame.settings d.uriScheme graphs draft.detail.uri
      (finish frame d affiliation draft) := by
  have hnodup : draft.graphs.Nodup := by
    rw [hgraphs]
    exact nodup_eraseDups _
  have hmarked := foldl_markGraph_links frame.settings hlinks hnodup
  have huri := foldl_markGraph_uri frame.settings draft.detail draft.graphs
  have hmark := foldl_markGraph_readOnly frame.settings draft.detail draft.graphs
  have hother : ∀ u, draft.detail.uri = some u →
      u ∉ (draft.graphs.foldl (markGraph frame.settings) draft.detail).links := by
    intro u hu hmem
    rw [hmarked, List.mem_filter, hu] at hmem
    exact (of_decide_eq_true hmem.2).2 rfl
  rw [finish]
  generalize draft.graphs.foldl (markGraph frame.settings) draft.detail = marked at *
  rw [← huri] at hother
  have hchanged := giveScheme_uri_ne_iff marked d.uriScheme
  obtain ⟨hreadOnly', hlinks'⟩ := giveScheme_origin d.uriScheme hother
  obtain ⟨hreadOnly'', hlinks'', huri''⟩ :=
    giveContext_origin d affiliation.label (giveScheme marked d.uriScheme)
  constructor
  · rw [hreadOnly'', hreadOnly', hmark, hreadOnly, hgraphs]
    simp [and_assoc]
  · rw [huri'', ← huri]
    exact hchanged
  · rw [hlinks'', hlinks', huri'', hmarked, huri, hgraphs]
  · rw [hlinks'', hlinks']
    refine List.nodup_append.mpr ⟨hmarked ▸ hnodup.filter _, ?_, ?_⟩
    · split
      · exact List.nodup_nil
      · cases marked.uri <;> simp
    · rintro u hu v hv rfl
      split at hv
      · cases hv
      · exact hother u (Option.mem_toList.mp hv) hu

/-! ## Details of a row -/

theorem withSubType_origin (d : DetailDefinition) (subTypeField : Option Nat)
    (labels : List String) (x : Detail) :
    (withSubType d subTypeField labels x).links = x.links ∧
      (withSubType d subTypeField labels x).readOnly = x.readOnly ∧
      (withSubType d subTypeField labels x).uri = x.uri := by
  cases subTypeField with
  | none => exact ⟨rfl, rfl, rfl⟩
  | some i => exact setIfSome_origin x _ _

/-- What a row tells of a unique detail is drawn from the graphs in its columns. -/
theorem isDrawnFrom_readUnique {l : UniqueLayout} {affiliation : Affiliation}
    (h : readUnique frame d l row affiliation = some x) :
    IsDrawnFrom frame.settings d.uriScheme
      (graphsOf d (l.slots.map fun s => (s.token, row.text s.column)))
      (uriOf row affiliation l.uri) x := by
  rw [readUnique_eq] at h
  generalize l.slots.map (fun s => (s.token, row.text s.column)) = parts at h ⊢
  obtain ⟨hlinks, hreadOnly, -⟩ := @draftOf_origin frame d parts
  obtain ⟨htypedLinks, htypedReadOnly, -⟩ := withSubType_origin d l.subTypeField
    (presentLabels row l.subTypeColumns) (draftOf frame d parts).detail
  dsimp only at h
  split at h
  · cases h
  · generalize withSubType d l.subTypeField (presentLabels row l.subTypeColumns)
      (draftOf frame d parts).detail = typed at h htypedLinks htypedReadOnly
    cases h
    exact isDrawnFrom_finish frame d affiliation
      ⟨{ typed with uri := uriOf row affiliation l.uri }, (draftOf frame d parts).graphs⟩
      (htypedLinks.trans hlinks) (htypedReadOnly.trans hreadOnly) (draftOf_graphs parts)

/-- The instances that a row tells of are drawn from the graphs of their parts. -/
theorem isDrawnFrom_readMulti (frame : Frame) (d : DetailDefinition) (l : MultiLayout) (row : Row)
    (affiliation : Affiliation) :
    List.Forall₂
      (fun parts x => IsDrawnFrom frame.settings d.uriScheme (graphsOf d parts) (uriIn parts) x)
      (((Layout.multi l).partsIn row).filter (anySetsValue frame d ⟨{ name := d.name }, []⟩))
      (readMulti frame d l row affiliation) := by
  have hitems : readItems frame d l.tokens (row.text l.main) =
      (((Layout.multi l).partsIn row).filter
        (anySetsValue frame d ⟨{ name := d.name }, []⟩)).map (draftOf frame d) := by
    rw [readItems, Layout.partsIn, List.filter_map, List.map_map, ← List.filterMap_eq_map,
      List.filterMap_filter]
    refine List.filterMap_congr fun item _ => ?_
    rw [readItem_eq]
    rfl
  rw [readMulti_eq, hitems, List.map_map, List.forall₂_map_right_iff, List.forall₂_same]
  intro parts _
  obtain ⟨hlinks, hreadOnly, huri⟩ := @draftOf_origin frame d parts
  obtain ⟨htypedLinks, htypedReadOnly, htypedUri⟩ := withSubType_origin d l.subTypeField
    (matchingLabels (bySubType frame d l row) (draftOf frame d parts).detail)
    (draftOf frame d parts).detail
  rw [← huri, ← htypedUri]
  exact isDrawnFrom_finish frame d affiliation ⟨_, (draftOf frame d parts).graphs⟩
    (htypedLinks.trans hlinks) (htypedReadOnly.trans hreadOnly) (draftOf_graphs parts)

theorem graphsOf_of_not_hasOwner (hd : d.hasOwner = false) (parts : List (Token × String)) :
    graphsOf d parts = [] := by
  refine List.filterMap_eq_nil_iff.mpr fun p _ => ?_
  unfold graphOf?
  split
  · rw [hd]
    rfl
  · rfl

/-- Where a detail comes from decides just whether it can be changed and what it links to. With an
owner every typed part counts that carries a graph, whether it can be read or not; without one no
part is looked at for a graph, and nothing but the URI is linked. -/
theorem isDrawnFrom_read (frame : Frame) (d : DetailDefinition) (row : Row)
    (affiliation : Affiliation) :
    (∀ l, ∀ x ∈ readUnique frame d l row affiliation,
        IsDrawnFrom frame.settings d.uriScheme
          (graphsOf d (l.slots.map fun s => (s.token, row.text s.column)))
          (uriOf row affiliation l.uri) x) ∧
      (∀ l, List.Forall₂
        (fun parts x => IsDrawnFrom frame.settings d.uriScheme (graphsOf d parts) (uriIn parts) x)
        (((Layout.multi l).partsIn row).filter (anySetsValue frame d ⟨{ name := d.name }, []⟩))
        (readMulti frame d l row affiliation)) ∧
      (d.hasOwner = false → (∀ text, splitOwned d text = (text, none)) ∧
        ∀ parts, graphsOf d parts = []) := by
  refine ⟨fun l x hx => isDrawnFrom_readUnique hx,
    fun l => isDrawnFrom_readMulti frame d l row affiliation, fun hd => ⟨fun text => ?_, ?_⟩⟩
  · rw [splitOwned, hd]
    rfl
  · exact graphsOf_of_not_hasOwner hd

/-- A nickname with the graph that it comes from, told apart by a URI in a scheme. -/
def ownedNickname : DetailDefinition :=
  { name := "Nickname", unique := true, hasOwner := true, dependencies := []
    uriScheme := some "nick", fields := [{ name := "Nickname", type := .text }] }

/-- The nickname in one column, and its URI in another. -/
def nicknameColumns : UniqueLayout :=
  { slots := [⟨0, 0, false⟩], uri := some (.column 1), subTypeField := none, subTypeColumns := [] }

/-- A nickname of a foreign graph cannot be changed, and it links to the graph and to the URI that
it had; without an owner the graph is part of the text. -/
theorem isDrawnFrom_foreignNickname :
    ∃ x y, readUnique ⟨{}, {}⟩ ownedNickname nicknameColumns
        [some "zed\x1ctelepathy:1", some "urn:zed"] default = some x ∧
      readUnique ⟨{}, {}⟩ { ownedNickname with hasOwner := false } nicknameColumns
        [some "zed\x1ctelepathy:1", some "nick:zed"] default = some y ∧
      x.text "Nickname" = "zed" ∧ x.readOnly = true ∧ x.links = ["telepathy:1", "urn:zed"] ∧
      y.text "Nickname" = "zed\x1ctelepathy:1" ∧ y.readOnly = false ∧ y.links = [] := by
  obtain ⟨x, y, hx, hy, hxtext, hxuri, hytext, hyuri⟩ :
      ∃ x y, readUnique ⟨{}, {}⟩ ownedNickname nicknameColumns
          [some "zed\x1ctelepathy:1", some "urn:zed"] default = some x ∧
        readUnique ⟨{}, {}⟩ { ownedNickname with hasOwner := false } nicknameColumns
          [some "zed\x1ctelepathy:1", some "nick:zed"] default = some y ∧
        x.text "Nickname" = "zed" ∧ x.uri = some "nick:zed" ∧
        y.text "Nickname" = "zed\x1ctelepathy:1" ∧ y.uri = some "nick:zed" :=
    ⟨_, _, rfl, rfl, rfl, rfl, rfl, rfl⟩
  have hdrawn := (isDrawnFrom_read ⟨{}, {}⟩ ownedNickname _ default).1 nicknameColumns x hx
  obtain ⟨hunique, -, hunowned⟩ :=
    isDrawnFrom_read ⟨{}, {}⟩ { ownedNickname with hasOwner := false }
      [some "zed\x1ctelepathy:1", some "nick:zed"] default
  have hplain := hunique nicknameColumns y hy
  rw [(hunowned rfl).2] at hplain
  refine ⟨x, y, hx, hy, hxtext, ?_, ?_, hytext, ?_, ?_⟩
  · exact hdrawn.readOnly_iff.mpr ⟨"telepathy:1", by decide, by decide, by decide⟩
  · rw [hdrawn.links_eq, hxuri]
    decide
  · rw [← Bool.not_eq_true, hplain.readOnly_iff]
    simp
  · rw [hplain.links_eq, hyuri]
    decide

end Result

end ContactGraph
