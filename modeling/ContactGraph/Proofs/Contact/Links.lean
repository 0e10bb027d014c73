import ContactGraph.Contact.Basic
import ContactGraph.Contact.Names

/-!
# Links back

Links are mutual when each detail that another one links to by its URI links back to it
(`Contact.HasMutualLinks`). Closing the links of a contact answers the links that are there, but not
those it adds itself : a link to one of several details with the same URI is answered to all of
them, and the others need not have it. So once is enough just when links without any answer are
shared by all details with their URI (`hasMutualLinks_closeLinks`), in particular when no two
details have the same URI (`hasMutualLinks_closeLinks_of_nodup`). Twice is enough for all contacts :
after once, URIs are linked both ways or not at all.
-/

namespace ContactGraph

namespace Detail

variable {d : Detail} {us : List String} {u : String}

theorem mem_addUri {uris : List String} {v : String} : u ∈ addUri uris v ↔ u ∈ uris ∨ u = v := by
  rw [addUri]
  split
  · rename_i h
    have hmem : v ∈ uris := List.contains_iff_mem.mp h
    exact ⟨.inl, fun hu => hu.elim id fun heq => heq ▸ hmem⟩
  · rw [List.mem_append, List.mem_singleton]

/-- Linking changes nothing but the links. -/
theorem linkAll_eq (d : Detail) (us : List String) :
    d.linkAll us = { d with links := us.foldl addUri d.links } := by
  induction us generalizing d with
  | nil => rfl
  | cons u us ih => exact ih (d.link u)

@[simp] theorem linkAll_uri (d : Detail) (us : List String) : (d.linkAll us).uri = d.uri := by
  rw [linkAll_eq]

@[simp] theorem linkAll_nil (d : Detail) : d.linkAll [] = d :=
  rfl

theorem mem_links_linkAll : u ∈ (d.linkAll us).links ↔ u ∈ d.links ∨ u ∈ us := by
  induction us generalizing d with
  | nil => simp
  | cons v us ih =>
    have hlink : u ∈ (d.link v).links ↔ u ∈ d.links ∨ u = v := mem_addUri
    show u ∈ ((d.link v).linkAll us).links ↔ _
    rw [ih, hlink, List.mem_cons, or_assoc]

end Detail

namespace Contact

variable {c : Contact} {d : Detail} {u v : String}

/-! ## Links between URIs -/

/-- Each detail that another one links to by its URI links back to that one's. -/
def HasMutualLinks (c : Contact) : Prop :=
  ∀ a ∈ c.details, ∀ b ∈ c.details, ∀ u v, a.uri = some u → b.uri = some v →
    v ∈ a.links → u ∈ b.links

/-- Some detail has the URI `u`. -/
def HasUri (c : Contact) (u : String) : Prop :=
  ∃ d ∈ c.details, d.uri = some u

/-- Some detail with the URI `u` links to `v`. -/
def LinksTo (c : Contact) (u v : String) : Prop :=
  ∃ d ∈ c.details, d.uri = some u ∧ v ∈ d.links

/-- A link from `u` to `v` that no detail with the URI `v` answers is one of all details with the
URI `u`. -/
def SharesUnanswered (c : Contact) : Prop :=
  ∀ u v, c.LinksTo u v → c.HasUri v → ¬ c.LinksTo v u →
    ∀ d ∈ c.details, d.uri = some u → v ∈ d.links

theorem mem_backLinks_iff {ds : List Detail} : u ∈ backLinks ds d ↔
    u ∉ d.links ∧ ∃ source ∈ ds, source.uri = some u ∧ ∃ v ∈ source.links, d.uri = some v := by
  rw [backLinks, List.mem_flatMap]
  constructor
  · rintro ⟨source, hsource, hu⟩
    cases huri : source.uri with
    | none => simp [huri] at hu
    | some w =>
      by_cases hw : w ∈ d.links
      · simp [huri, hw] at hu
      · simp only [huri, List.contains_eq_mem, hw, decide_false, Bool.false_eq_true, if_false,
          List.mem_map, List.mem_filter, decide_eq_true_eq] at hu
        obtain ⟨v, ⟨hv, hd⟩, rfl⟩ := hu
        exact ⟨hw, source, hsource, huri, v, hv, hd⟩
  · rintro ⟨hnew, source, hsource, huri, v, hv, hd⟩
    refine ⟨source, hsource, ?_⟩
    simp only [huri, List.contains_eq_mem, hnew, decide_false, Bool.false_eq_true, if_false,
      List.mem_map, List.mem_filter, decide_eq_true_eq]
    exact ⟨v, ⟨hv, hd⟩, trivial⟩

/-- The detail that closing the links of a contact makes of one of its details. -/
def closed (c : Contact) (d : Detail) : Detail :=
  d.linkAll (backLinks c.details d)

@[simp] theorem closed_uri (c : Contact) (d : Detail) : (c.closed d).uri = d.uri :=
  d.linkAll_uri _

theorem closed_eq_self (h : ∀ u, u ∉ backLinks c.details d) : c.closed d = d := by
  rw [closed, List.eq_nil_iff_forall_not_mem.mpr h, Detail.linkAll_nil]

/-- A detail without a URI gets no links back. -/
theorem closed_of_uri_eq_none (c : Contact) (h : d.uri = none) : c.closed d = d := by
  refine closed_eq_self fun u hu => ?_
  obtain ⟨-, -, -, -, v, -, hd⟩ := mem_backLinks_iff.mp hu
  rw [h] at hd
  cases hd

theorem mem_closeLinks {e : Detail} :
    e ∈ c.closeLinks.details ↔ ∃ d ∈ c.details, c.closed d = e :=
  List.mem_map

/-- A closed detail links to what it linked to, and to what links to its URI. -/
theorem mem_links_closed (c : Contact) (d : Detail) (u : String) :
    u ∈ (c.closed d).links ↔ u ∈ d.links ∨ ∃ v, d.uri = some v ∧ c.LinksTo u v := by
  rw [closed, Detail.mem_links_linkAll, mem_backLinks_iff]
  constructor
  · rintro (hu | ⟨-, source, hsource, huri, v, hv, hd⟩)
    · exact .inl hu
    · exact .inr ⟨v, hd, source, hsource, huri, hv⟩
  · rintro (hu | ⟨v, hd, source, hsource, huri, hv⟩)
    · exact .inl hu
    · by_cases hu : u ∈ d.links
      · exact .inl hu
      · exact .inr ⟨hu, source, hsource, huri, v, hv, hd⟩

theorem hasUri_closeLinks_iff : c.closeLinks.HasUri u ↔ c.HasUri u := by
  constructor
  · rintro ⟨e, he, huri⟩
    obtain ⟨d, hd, rfl⟩ := mem_closeLinks.mp he
    exact ⟨d, hd, by rwa [closed_uri] at huri⟩
  · rintro ⟨d, hd, huri⟩
    exact ⟨c.closed d, mem_closeLinks.mpr ⟨d, hd, rfl⟩, by rwa [closed_uri]⟩

/-- Closing links adds the links back. -/
theorem linksTo_closeLinks_iff :
    c.closeLinks.LinksTo u v ↔ c.LinksTo u v ∨ c.HasUri u ∧ c.LinksTo v u := by
  constructor
  · rintro ⟨e, he, huri, hv⟩
    obtain ⟨d, hd, rfl⟩ := mem_closeLinks.mp he
    rw [closed_uri] at huri
    rcases (c.mem_links_closed d v).mp hv with hv | ⟨w, hw, hback⟩
    · exact .inl ⟨d, hd, huri, hv⟩
    · obtain rfl : u = w := Option.some.inj (huri.symm.trans hw)
      exact .inr ⟨⟨d, hd, huri⟩, hback⟩
  · rintro (⟨d, hd, huri, hv⟩ | ⟨⟨d, hd, huri⟩, hback⟩)
    · exact ⟨c.closed d, mem_closeLinks.mpr ⟨d, hd, rfl⟩, by rwa [closed_uri],
        (c.mem_links_closed d v).mpr (.inl hv)⟩
    · exact ⟨c.closed d, mem_closeLinks.mpr ⟨d, hd, rfl⟩, by rwa [closed_uri],
        (c.mem_links_closed d v).mpr (.inr ⟨u, huri, hback⟩)⟩

/-! ## Closing links -/

theorem hasMutualLinks_closeLinks_iff : c.closeLinks.HasMutualLinks ↔ c.SharesUnanswered := by
  constructor
  · rintro hmutual u v hlink ⟨target, htarget, hv⟩ hnone d hd hu
    -- the target gets a link back, which all details with the URI `u` have to answer
    have hback : u ∈ (c.closed target).links :=
      (c.mem_links_closed target u).mpr (.inr ⟨v, hv, hlink⟩)
    have hanswer : v ∈ (c.closed d).links :=
      hmutual _ (mem_closeLinks.mpr ⟨target, htarget, rfl⟩) _ (mem_closeLinks.mpr ⟨d, hd, rfl⟩) v u
        (by rwa [closed_uri]) (by rwa [closed_uri]) hback
    rcases (c.mem_links_closed d v).mp hanswer with h | ⟨w, hw, hanswered⟩
    · exact h
    · obtain rfl : u = w := Option.some.inj (hu.symm.trans hw)
      exact absurd hanswered hnone
  · intro hshared a' ha' b' hb' u v hu hv hlink
    obtain ⟨a, ha, rfl⟩ := mem_closeLinks.mp ha'
    obtain ⟨b, hb, rfl⟩ := mem_closeLinks.mp hb'
    rw [closed_uri] at hu hv
    rw [mem_links_closed]
    by_cases hforth : c.LinksTo u v
    · exact .inr ⟨v, hv, hforth⟩
    · -- the link is one that was added, and it answers links of all details with the URI `v`
      rcases (c.mem_links_closed a v).mp hlink with h | ⟨w, hw, hback⟩
      · exact absurd ⟨a, ha, hu, h⟩ hforth
      · obtain rfl : u = w := Option.some.inj (hu.symm.trans hw)
        exact .inl (hshared v u hback ⟨a, ha, hu⟩ hforth b hb hv)

/-- Closing changes nothing just when there is nothing to close. -/
theorem closeLinks_eq_self_iff : c.closeLinks = c ↔ c.HasMutualLinks := by
  constructor
  · intro hself a ha b hb u v hu hv hlink
    have hdetails : c.details.map c.closed = c.details.map fun d => d :=
      (congrArg Contact.details hself).trans (List.map_id' c.details).symm
    have hb' : c.closed b = b := List.map_inj_left.mp hdetails b hb
    rw [← hb', mem_links_closed]
    exact .inr ⟨v, hv, a, ha, hu, hlink⟩
  · intro hmutual
    have hdetails : c.details.map c.closed = c.details := by
      refine (List.map_congr_left fun d hd => closed_eq_self fun u hu => ?_).trans
        (List.map_id' c.details)
      obtain ⟨hnew, source, hsource, huri, v, hv, htarget⟩ := mem_backLinks_iff.mp hu
      exact hnew (hmutual source hsource d hd u v huri htarget hv)
    show { c with details := c.details.map c.closed } = c
    rw [hdetails]

/-- Closing the links of a contact makes them mutual just when links without any answer are shared
by all details with their URI, and just then closing them again changes nothing. Closing them twice
always makes them mutual. -/
theorem hasMutualLinks_closeLinks (c : Contact) :
    (c.closeLinks.HasMutualLinks ↔ c.SharesUnanswered) ∧
    (c.closeLinks.closeLinks = c.closeLinks ↔ c.SharesUnanswered) ∧
    c.closeLinks.closeLinks.HasMutualLinks ∧
    c.closeLinks.closeLinks.closeLinks = c.closeLinks.closeLinks := by
  have htwice : c.closeLinks.closeLinks.HasMutualLinks := by
    rw [hasMutualLinks_closeLinks_iff]
    intro u v hlink hv hnone
    rw [linksTo_closeLinks_iff] at hlink hnone
    rw [hasUri_closeLinks_iff] at hv
    exact absurd (hlink.symm.imp (·.2) fun h => ⟨hv, h⟩) hnone
  exact ⟨hasMutualLinks_closeLinks_iff,
    closeLinks_eq_self_iff.trans hasMutualLinks_closeLinks_iff, htwice,
    closeLinks_eq_self_iff.mpr htwice⟩

/-- When no two details have the same URI, closing once is enough. -/
theorem hasMutualLinks_closeLinks_of_nodup (h : (c.details.filterMap (·.uri)).Nodup) :
    c.closeLinks.HasMutualLinks := by
  have happart := List.pairwise_filterMap.mp h
  have hsame : ∀ a ∈ c.details, ∀ b ∈ c.details, ∀ u, a.uri = some u → b.uri = some u → a = b :=
    List.Pairwise.forall_of_forall_of_flip (fun _ _ _ _ _ => rfl)
      (happart.imp fun hne u ha hb => absurd rfl (hne u ha u hb))
      (happart.imp fun hne u hb ha => absurd rfl (hne u ha u hb))
  rw [hasMutualLinks_closeLinks_iff]
  rintro u v ⟨a, ha, hu, hv⟩ - - d hd hu'
  rwa [← hsame a ha d hd u hu hu']

/-- An account and its avatar, which have the same URI, and a phone number that the account alone
links to. -/
def callableAccount : Contact :=
  { id := ⟨.person, 1⟩
    details := [
      { name := Names.onlineAccount, uri := some "im:amy", links := ["tel:1"] },
      { name := Names.onlineAvatar, uri := some "im:amy" },
      { name := Names.phoneNumber, uri := some "tel:1" }] }

/-- The number links back to the URI of both, and the avatar does not link to the number. -/
theorem not_hasMutualLinks_callableAccount :
    callableAccount.closeLinks.details.map (·.links) = [["tel:1"], [], ["im:amy"]] ∧
    ¬ callableAccount.closeLinks.HasMutualLinks ∧
    callableAccount.closeLinks.closeLinks.details.map (·.links) =
      [["tel:1"], ["tel:1"], ["im:amy"]] := by
  refine ⟨by decide, fun hmutual => ?_, by decide⟩
  have hlink : "tel:1" ∈ ([] : List String) :=
    hmutual _ (.tail _ (.tail _ (.head _))) _ (.tail _ (.head _)) "tel:1" "im:amy" rfl rfl
      (by decide)
  exact List.not_mem_nil hlink

end Contact

end ContactGraph
