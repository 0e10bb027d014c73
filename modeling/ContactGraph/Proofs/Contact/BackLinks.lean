import ContactGraph.Proofs.Contact.Links
import Mathlib.Data.List.Basic
import Mathlib.Data.List.Forall2
import Mathlib.Data.List.Induction

/-!
# What closing links adds

Closing the links of a contact adds links back and does nothing else
(`Contact.addsBackLinks_closeLinks`) : a detail gets the URIs of just those details that linked to
its own URI and that it did not link to, each of them once and behind the links it had
(`Contact.AddsBackLinks`). The missing links can be looked for first, as often as they are found,
and be added after that (`Contact.closeLinks_eq_foldl`).
-/

namespace ContactGraph

/-- Of URIs that are added one after the other, each that is not there is added once. -/
theorem Detail.exists_foldl_addUri (uris us : List String) : ∃ new : List String,
    us.foldl addUri uris = uris ++ new ∧ new.Nodup ∧ ∀ u, u ∈ new ↔ u ∉ uris ∧ u ∈ us := by
  induction us using List.reverseRecOn with
  | nil => exact ⟨[], by simp⟩
  | append_singleton us v ih =>
    obtain ⟨new, hfold, hnodup, hmem⟩ := ih
    rw [List.foldl_append, hfold, List.foldl_cons, List.foldl_nil, addUri]
    split
    · rename_i hthere
      refine ⟨new, rfl, hnodup, fun u => ?_⟩
      grind
    · rename_i hnew
      refine ⟨new ++ [v], List.append_assoc .., ?_, fun u => ?_⟩
      · grind
      · grind

namespace Contact

variable {c : Contact} {d e : Detail}

/-! ## Links back -/

/-- A detail with links added behind those it has : each of them once, and just the URIs of details
that linked to its URI and that it did not link to. -/
def AddsBackLinks (c : Contact) (d e : Detail) : Prop :=
  ∃ new : List String, e = { d with links := d.links ++ new } ∧ new.Nodup ∧
    ∀ u, u ∈ new ↔ u ∉ d.links ∧ ∃ v, d.uri = some v ∧ c.LinksTo u v

theorem addsBackLinks_closed (c : Contact) (d : Detail) : c.AddsBackLinks d (c.closed d) := by
  obtain ⟨new, hlinks, hnodup, hmem⟩ := Detail.exists_foldl_addUri d.links (backLinks c.details d)
  refine ⟨new, ?_, hnodup, fun u => ?_⟩
  · rw [closed, Detail.linkAll_eq, hlinks]
  · rw [hmem, mem_backLinks_iff]
    constructor
    · rintro ⟨hnew, -, source, hsource, hu, v, hv, hd⟩
      exact ⟨hnew, v, hd, source, hsource, hu, hv⟩
    · rintro ⟨hnew, v, hd, source, hsource, hu, hv⟩
      exact ⟨hnew, hnew, source, hsource, hu, v, hv, hd⟩

/-- Closing links adds to each detail, in its place, the links back that it misses, and changes
nothing else. So each link that was there is answered by all details with the linked URI. -/
theorem addsBackLinks_closeLinks (c : Contact) :
    c.closeLinks = { c with details := c.closeLinks.details } ∧
    List.Forall₂ c.AddsBackLinks c.details c.closeLinks.details ∧
    ∀ u v, c.LinksTo u v → ∀ d ∈ c.closeLinks.details, d.uri = some v → u ∈ d.links := by
  refine ⟨rfl, ?_, fun u v hlink e he hv => ?_⟩
  · exact List.forall₂_map_right_iff.mpr (List.forall₂_same.mpr fun d _ => c.addsBackLinks_closed d)
  · obtain ⟨d, -, rfl⟩ := mem_closeLinks.mp he
    rw [closed_uri] at hv
    exact (c.mem_links_closed d u).mpr (.inr ⟨v, hv, hlink⟩)

/-! ## Two passes -/

/-- The links back that are missing, as often as they are found : the place of the detail that is to
get the link, and the URI. -/
def missingLinks (ds : List Detail) : List (Nat × String) :=
  ds.flatMap fun source => source.uri.toList.flatMap fun uri => source.links.flatMap fun linked =>
    (ds.zipIdx.filter fun target =>
      target.1.uri = some linked && !target.1.links.contains uri).map fun target => (target.2, uri)

/-- Adds a link to the detail in a place. -/
def linkAt (ds : List Detail) (missing : Nat × String) : List Detail :=
  ds.modify missing.1 (·.link missing.2)

theorem getElem?_foldl_linkAt (ds : List Detail) (missing : List (Nat × String)) (i : Nat) :
    (missing.foldl linkAt ds)[i]? =
      ds[i]?.map (·.linkAll ((missing.filter (·.1 = i)).map (·.2))) := by
  induction missing generalizing ds with
  | nil => simp
  | cons m missing ih =>
    rw [List.foldl_cons, ih, linkAt, List.getElem?_modify]
    by_cases hi : m.1 = i
    · simp only [hi, List.filter_cons, decide_true, if_true, List.map_cons]
      cases ds[i]? <;> rfl
    · simp [hi]

/-- One element stands in a place. -/
theorem filter_zipIdx (ds : List Detail) (start i : Nat) :
    (ds.zipIdx start).filter (·.2 = start + i) = (ds[i]?.map fun d => (d, start + i)).toList := by
  induction ds generalizing start i with
  | nil => simp
  | cons d ds ih =>
    rw [List.zipIdx_cons, List.filter_cons]
    cases i with
    | zero =>
      have hnone : (ds.zipIdx (start + 1)).filter (·.2 = start) = [] := by
        rw [List.filter_eq_nil_iff]
        rintro ⟨e, j⟩ he
        have hlater := List.le_snd_of_mem_zipIdx he
        simp only [decide_eq_true_eq]
        omega
      simp [hnone]
    | succ i =>
      have htail := ih (start + 1) i
      rw [show start + 1 + i = start + (i + 1) by omega] at htail
      rw [if_neg (by simp), htail, List.getElem?_cons_succ]

theorem filter_missingLinks {ds : List Detail} {i : Nat} (h : ds[i]? = some d) :
    ((missingLinks ds).filter (·.1 = i)).map (·.2) = backLinks ds d := by
  have hplace : ds.zipIdx.filter (·.2 = i) = [(d, i)] := by
    simpa [h] using filter_zipIdx ds 0 i
  -- of the places in which one link is missing, this one counts
  have hone (uri linked : String) : (((ds.zipIdx.filter fun target =>
      target.1.uri = some linked && !target.1.links.contains uri).map fun target =>
        (target.2, uri)).filter (·.1 = i)).map (·.2) =
      if d.uri = some linked && !d.links.contains uri then [uri] else [] := by
    rw [List.filter_map, Function.comp_def, List.filter_comm, hplace, List.filter_cons]
    split <;> rfl
  rw [missingLinks, backLinks, List.filter_flatMap, List.map_flatMap]
  refine List.flatMap_congr fun source _ => ?_
  cases source.uri with
  | none => rfl
  | some uri =>
    simp only [Option.toList_some, List.flatMap_singleton, List.filter_flatMap, List.map_flatMap,
      hone]
    cases d.links.contains uri with
    | true => simp
    | false =>
      simp only [Bool.not_false, Bool.and_true, Bool.false_eq_true, if_false, decide_eq_true_eq]
      induction source.links with
      | nil => rfl
      | cons linked links ih =>
        rw [List.flatMap_cons, ih, List.filter_cons]
        simp only [decide_eq_true_eq]
        split <;> rfl

/-- Closing links is looking for all links back that are missing, and adding them after that. -/
theorem closeLinks_eq_foldl (c : Contact) : c.closeLinks =
    { c with details := (missingLinks c.details).foldl linkAt c.details } := by
  have hdetails : c.closeLinks.details = (missingLinks c.details).foldl linkAt c.details := by
    refine List.ext_getElem? fun i => ?_
    rw [getElem?_foldl_linkAt, closeLinks, List.getElem?_map]
    cases h : c.details[i]? with
    | none => rfl
    | some d => rw [Option.map_some, Option.map_some, filter_missingLinks h]
  rw [← hdetails]
  rfl

end Contact

end ContactGraph
