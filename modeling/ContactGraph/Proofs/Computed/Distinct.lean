import ContactGraph.Computed.Step
import ContactGraph.Proofs.Contact.Basic
import ContactGraph.Proofs.Contact.Links
import ContactGraph.Proofs.Sort.Stable
import Mathlib.Data.List.Perm.Subperm

/-!
# Equal details after all steps

Duplicates are removed first, and what is done behind that can make details equal again. There are
two ways to that (`pairwise_complete`) : avatars are made of details that differ in what an avatar
does not take over, and details that differ in their links alone get the missing ones when links are
closed. The global presence and the label are the only details of their names, and have no URI by
which they could be linked to.
-/

namespace ContactGraph.Computed

variable {c c₀ c' : Contact} {d e : Detail} {name : String}

/-! ## Two details of a contact -/

/-- Two details of a contact, in either order, that are not equal. -/
def AreDistinctIn (c : Contact) (d e : Detail) : Prop :=
  (d == e) = false ∧ [d, e].Subperm c.details

theorem AreDistinctIn.symm (h : AreDistinctIn c d e) : AreDistinctIn c e d := by
  obtain ⟨hne, hsub⟩ := h
  exact ⟨by rw [Detail.beq_comm, hne], (List.Perm.swap d e []).subperm.trans hsub⟩

/-- Whether an avatar is made of a detail. -/
def isSource (d : Detail) : Bool :=
  d.name = Names.personalAvatar || d.name = Names.onlineAvatar

/-- The avatar made of a detail. -/
def avatarOf (source : Detail) : Detail :=
  if source.name = Names.onlineAvatar then onlineAvatar source else personalAvatar source

/-- Two avatars, made of details of a contact that are not equal. -/
def AreAvatarsOf (c : Contact) (d e : Detail) : Prop :=
  ∃ s t, AreDistinctIn c s t ∧ isSource s = true ∧ isSource t = true ∧
    d = avatarOf s ∧ e = avatarOf t

/-- Two details of a contact that have one URI and differ in their links, and in nothing else, both
linked to more URIs of details that link to theirs. -/
def AreLinkedOf (c : Contact) (d e : Detail) : Prop :=
  ∃ s t us vs u, [s, t].Subperm c.details ∧ s.links ≠ t.links ∧
    ({ s with links := t.links } == t) = true ∧ s.uri = some u ∧
    (∀ v ∈ us ++ vs, c.LinksTo v u) ∧ d = s.linkAll us ∧ e = t.linkAll vs

/-- Details that are not equal, and both are of a contact if they have URIs. -/
def Settled (c : Contact) (d e : Detail) : Prop :=
  (d == e) = false ∧ ([d, e].Subperm c.details ∨ d.uri = none ∨ e.uri = none)

/-! ## Steps -/

/-- A contact on the way from `c₀` to its avatars. -/
structure Tidy (c₀ c : Contact) : Prop where
  /-- No two details are equal. -/
  settled : c.details.Pairwise (Settled c₀)
  /-- What avatars are made of is as it was. -/
  sources : (c.details.filter isSource).Pairwise (AreDistinctIn c₀)
  /-- So are all details with a URI. -/
  known : ∀ d ∈ c.details, d.uri ≠ none → d ∈ c₀.details

theorem tidy_removeDuplicates (c : Contact) : Tidy c c.removeDuplicates := by
  have hsub : c.removeDuplicates.details.Sublist c.details := Contact.distinctAfter_sublist [] _
  have hpairs : c.removeDuplicates.details.Pairwise (AreDistinctIn c) := by
    rw [List.pairwise_iff_forall_sublist]
    intro d e hde
    have hne := List.pairwise_iff_forall_sublist.mp
      (Contact.pairwise_distinctAfter [] c.details) hde
    exact ⟨hne, (hde.trans hsub).subperm⟩
  exact ⟨hpairs.imp fun h => ⟨h.1, .inl h.2⟩, hpairs.filter _, fun d hd _ => hsub.subset hd⟩

/-- The details of a name are replaced by one without a URI, or by none. -/
def Replaces (name : String) (c c' : Contact) : Prop :=
  ∃ new : Option Detail, c'.details = (c.without name).details ++ new.toList ∧
    ∀ d ∈ new, d.name = name ∧ d.uri = none

theorem Tidy.replace (h : Tidy c₀ c) (hc : Replaces name c c')
    (hname : ∀ d : Detail, d.name = name → isSource d = false) : Tidy c₀ c' := by
  obtain ⟨new, hdetails, hnew⟩ := hc
  constructor
  · rw [hdetails, List.pairwise_append]
    refine ⟨h.settled.filter _, by cases new <;> simp, fun d hd e he => ?_⟩
    obtain ⟨hename, heuri⟩ := hnew e (Option.mem_toList.mp he)
    have hne : d.name ≠ e.name := hename ▸ (Contact.mem_without.mp hd).2
    exact ⟨Detail.beq_eq_false_of_name_ne hne, .inr (.inr heuri)⟩
  · have hnone : new.toList.filter isSource = [] := by
      rw [List.filter_eq_nil_iff]
      intro d hd
      rw [hname d (hnew d (Option.mem_toList.mp hd)).1]
      exact Bool.false_ne_true
    rw [hdetails, List.filter_append, hnone, List.append_nil, Contact.filter_without hname]
    exact h.sources
  · intro d hd huri
    rw [hdetails, List.mem_append] at hd
    rcases hd with hd | hd
    · exact h.known d (Contact.mem_without.mp hd).1 huri
    · exact absurd (hnew d (Option.mem_toList.mp hd)).2 huri

theorem copyFields_eq (source : Detail) (fields : List String) (d : Detail) :
    copyFields source fields d = { d with values := (copyFields source fields d).values } := by
  unfold copyFields
  induction fields generalizing d with
  | nil => rfl
  | cons field fields ih =>
    rw [List.foldl_cons, ih]
    split <;> rfl

theorem replaces_globalPresence (c : Contact) :
    Replaces Names.globalPresence c (globalPresence c) := by
  unfold globalPresence
  dsimp only
  split
  · rename_i l _
    refine ⟨some l.detail, rfl, ?_⟩
    rintro d ⟨⟩
    rw [Leaders.detail, Detail.linkAll_eq, copyFields_eq, copyFields_eq]
    exact ⟨rfl, rfl⟩
  · exact ⟨none, (List.append_nil _).symm, nofun⟩

theorem replaces_displayLabel (order : NameOrder) (preferNickname : Bool) (c : Contact) :
    Replaces Names.displayLabel c (displayLabel order preferNickname c) := by
  unfold displayLabel
  dsimp only
  split
  · exact ⟨none, (List.append_nil _).symm, nofun⟩
  · refine ⟨some _, rfl, ?_⟩
    rintro d ⟨⟩
    exact ⟨rfl, rfl⟩

/-- A step keeps a contact tidy if what it does does. -/
theorem Tidy.applyIfWanted (h : Tidy c₀ c) {step : Step} (hstep : Tidy c₀ (step.apply c))
    (wanted : NameSet) : Tidy c₀ (step.applyIfWanted wanted c) := by
  rw [Step.applyIfWanted]
  split
  · exact hstep
  · exact h

/-! ## Avatars -/

theorem personalAvatar_eq (source : Detail) : personalAvatar source =
    { name := Names.avatar, values := (personalAvatar source).values, context := source.context
      readOnly := source.readOnly } := by
  rw [personalAvatar, copyFields_eq]

theorem avatarOf_name (source : Detail) : (avatarOf source).name = Names.avatar := by
  rw [avatarOf]
  split
  · rw [onlineAvatar, Detail.linkAll_eq, personalAvatar_eq]
  · rw [personalAvatar_eq]

theorem avatarOf_uri (source : Detail) : (avatarOf source).uri = none := by
  rw [avatarOf]
  split
  · rw [onlineAvatar, Detail.linkAll_uri, personalAvatar_eq]
  · rw [personalAvatar_eq]

theorem map_avatarOf_personal (c : Contact) :
    (c.detailsNamed Names.personalAvatar).map avatarOf =
      (c.detailsNamed Names.personalAvatar).map personalAvatar := by
  refine List.map_congr_left fun d hd => if_neg ?_
  have hname : d.name = Names.personalAvatar := of_decide_eq_true (List.mem_filter.mp hd).2
  rw [hname]
  decide

theorem perm_filter_isSource (ds : List Detail) :
    (ds.filter (·.name = Names.personalAvatar) ++ ds.filter (·.name = Names.onlineAvatar)).Perm
      (ds.filter isSource) := by
  have hparts := List.filter_append_perm (fun d => decide (d.name = Names.personalAvatar))
    (ds.filter isSource)
  rw [List.filter_filter, List.filter_filter] at hparts
  refine .trans (.of_eq ?_) hparts
  congr 1
  · refine List.filter_congr fun d _ => ?_
    rw [isSource]
    by_cases h : d.name = Names.personalAvatar <;> simp [h]
  · refine List.filter_congr fun d _ => ?_
    rw [isSource]
    by_cases h : d.name = Names.personalAvatar
    · rw [h]
      decide
    · simp [h]

/-- The avatars of accounts, the most available ones first. -/
def rankedAvatars (c : Contact) : List Detail :=
  Sort.stable (fun a b => accountRank c b < accountRank c a) (c.detailsNamed Names.onlineAvatar)

/-- Taking out the avatars of all kinds leaves the presences as they were. -/
theorem accountRank_without (c : Contact) : accountRank (((c.without Names.avatar).without
    Names.personalAvatar).without Names.onlineAvatar) = accountRank c := by
  funext d
  unfold accountRank
  rw [Contact.detailsNamed_without (by decide), Contact.detailsNamed_without (by decide),
    Contact.detailsNamed_without (by decide)]

theorem avatars_eq (c : Contact) : avatars c = { c with
    details := c.details.filter (fun d =>
        d.name ∉ [Names.avatar, Names.personalAvatar, Names.onlineAvatar]) ++
      (c.detailsNamed Names.personalAvatar).map personalAvatar ++
      (rankedAvatars c).map onlineAvatar } := by
  have hkept : (((c.without Names.avatar).without Names.personalAvatar).without
      Names.onlineAvatar).details = c.details.filter (fun d =>
        d.name ∉ [Names.avatar, Names.personalAvatar, Names.onlineAvatar]) := by
    simp only [Contact.without, List.filter_filter, ← Bool.decide_and]
    refine List.filter_congr fun d _ => decide_eq_decide.mpr ?_
    simp only [List.mem_cons, List.not_mem_nil, or_false, not_or]
    tauto
  unfold avatars
  dsimp only
  rw [Contact.foldl_save, accountRank_without, hkept, ← List.append_assoc]
  rfl

/-- Avatars take the place of the details they are made of. -/
theorem exists_avatars_details (c : Contact) : ∃ sources : List Detail,
    sources.Perm (c.details.filter isSource) ∧
    (avatars c).details = c.details.filter (fun d =>
      d.name ∉ [Names.avatar, Names.personalAvatar, Names.onlineAvatar]) ++
        sources.map avatarOf := by
  have honline : (rankedAvatars c).map avatarOf = (rankedAvatars c).map onlineAvatar := by
    refine List.map_congr_left fun d hd => if_pos ?_
    exact of_decide_eq_true (List.mem_filter.mp (Sort.stable_perm.mem_iff.mp hd)).2
  refine ⟨c.detailsNamed Names.personalAvatar ++ rankedAvatars c, ?_, ?_⟩
  · exact (Sort.stable_perm.append_left _).trans (perm_filter_isSource c.details)
  · rw [avatars_eq, List.map_append, map_avatarOf_personal, honline, List.append_assoc]

theorem Tidy.pairwise_avatars (h : Tidy c₀ c) :
    (avatars c).details.Pairwise fun d e => Settled c₀ d e ∨ AreAvatarsOf c₀ d e := by
  obtain ⟨sources, hperm, hdetails⟩ := exists_avatars_details c
  have hsources : sources.Pairwise (AreDistinctIn c₀) :=
    (hperm.pairwise_iff fun {d e} => AreDistinctIn.symm).mpr h.sources
  have hsource : ∀ s ∈ sources, isSource s = true := fun s hs =>
    (List.mem_filter.mp (hperm.mem_iff.mp hs)).2
  rw [hdetails, List.pairwise_append]
  refine ⟨?_, ?_, fun d hd e he => ?_⟩
  · exact (h.settled.filter _).imp .inl
  · rw [List.pairwise_map]
    exact hsources.imp_of_mem fun hs ht hst =>
      .inr ⟨_, _, hst, hsource _ hs, hsource _ ht, rfl, rfl⟩
  · obtain ⟨s, -, rfl⟩ := List.mem_map.mp he
    have hname : d.name ≠ (avatarOf s).name := by
      rw [avatarOf_name]
      intro heq
      simp [heq] at hd
    exact .inl ⟨Detail.beq_eq_false_of_name_ne hname, .inr (.inr (avatarOf_uri s))⟩

theorem Tidy.mem_of_mem_avatars (h : Tidy c₀ c) (hd : d ∈ (avatars c).details)
    (huri : d.uri ≠ none) : d ∈ c₀.details := by
  obtain ⟨sources, -, hdetails⟩ := exists_avatars_details c
  rw [hdetails, List.mem_append] at hd
  rcases hd with hd | hd
  · exact h.known d (List.mem_filter.mp hd).1 huri
  · obtain ⟨s, -, rfl⟩ := List.mem_map.mp hd
    exact absurd (avatarOf_uri s) huri

/-! ## Links -/

/-- Links back come from details with a URI, which are those of the contact. -/
theorem linksTo_of_mem_backLinks (hknown : ∀ d ∈ c.details, d.uri ≠ none → d ∈ c₀.details)
    {u v : String} (huri : d.uri = some u) (hv : v ∈ Contact.backLinks c.details d) :
    c₀.LinksTo v u := by
  obtain ⟨-, source, hsource, hsuri, w, hw, hduri⟩ := Contact.mem_backLinks_iff.mp hv
  obtain rfl : u = w := Option.some.inj (huri.symm.trans hduri)
  exact ⟨source, hknown source hsource (by rw [hsuri]; nofun), hsuri, hw⟩

/-- Details that are equal with links added to them are equal but for their links. -/
theorem beq_of_beq_linkAll {us vs : List String} (h : (d.linkAll us == e.linkAll vs) = true) :
    ({ d with links := e.links } == e) = true := by
  rw [Detail.linkAll_eq, Detail.linkAll_eq, Detail.beq_iff] at h
  obtain ⟨hname, hvalues, huri, -, hcontext, hreadOnly⟩ := h
  exact Detail.beq_iff.mpr ⟨hname, hvalues, huri, rfl, hcontext, hreadOnly⟩

/-- Details that closing links makes equal have a URI, and differed in their links alone. -/
theorem areLinkedOf_of_beq_closed (hknown : ∀ d ∈ c.details, d.uri ≠ none → d ∈ c₀.details)
    (h : Settled c₀ d e) (heq : (c.closed d == c.closed e) = true) :
    AreLinkedOf c₀ (c.closed d) (c.closed e) := by
  obtain ⟨hne, hplace⟩ := h
  have hbut := beq_of_beq_linkAll heq
  have huri : d.uri = e.uri := (Detail.beq_iff.mp hbut).2.2.1
  cases hd : d.uri with
  | none =>
    rw [c.closed_of_uri_eq_none hd, c.closed_of_uri_eq_none (huri.symm.trans hd), hne] at heq
    cases heq
  | some u =>
    have he : e.uri = some u := huri.symm.trans hd
    have hsub : [d, e].Subperm c₀.details := by
      rcases hplace with hsub | hnone | hnone
      · exact hsub
      · rw [hd] at hnone
        cases hnone
      · rw [he] at hnone
        cases hnone
    have hlinks : d.links ≠ e.links := by
      intro hsame
      rw [← hsame, hne] at hbut
      cases hbut
    refine ⟨d, e, _, _, u, hsub, hlinks, hbut, hd, ?_, rfl, rfl⟩
    rw [List.forall_mem_append]
    exact ⟨fun v hv => linksTo_of_mem_backLinks hknown hd hv,
      fun v hv => linksTo_of_mem_backLinks hknown he hv⟩

/-! ## All steps -/

/-- The contact when its avatars are to be made. -/
def beforeAvatars (settings : Settings) (wanted : NameSet) (c : Contact) : Contact :=
  (Step.displayLabel settings.nameOrder settings.preferNickname).applyIfWanted wanted
    (Step.globalPresence.applyIfWanted wanted c.removeDuplicates)

/-- The contact when its links are to be closed. -/
def beforeClosing (settings : Settings) (wanted : NameSet) (c : Contact) : Contact :=
  Step.avatars.applyIfWanted wanted (beforeAvatars settings wanted c)

theorem complete_eq (settings : Settings) (wanted : NameSet) (c : Contact) :
    complete settings wanted c = (beforeClosing settings wanted c).closeLinks :=
  rfl

theorem tidy_beforeAvatars (settings : Settings) (wanted : NameSet) (c : Contact) :
    Tidy c (beforeAvatars settings wanted c) := by
  have hfirst := tidy_removeDuplicates c
  have hpresence : Tidy c (Step.globalPresence.applyIfWanted wanted c.removeDuplicates) :=
    hfirst.applyIfWanted (hfirst.replace (replaces_globalPresence _) fun d hd => by
      rw [isSource, hd]; decide) wanted
  exact hpresence.applyIfWanted (hpresence.replace (replaces_displayLabel _ _ _) fun d hd => by
    rw [isSource, hd]; decide) wanted

theorem pairwise_beforeClosing (settings : Settings) (wanted : NameSet) (c : Contact) :
    (beforeClosing settings wanted c).details.Pairwise fun d e =>
      Settled c d e ∨ wanted.contains Names.avatar = true ∧ AreAvatarsOf c d e := by
  have htidy := tidy_beforeAvatars settings wanted c
  rw [beforeClosing, Step.applyIfWanted]
  split
  · rename_i hwanted
    exact htidy.pairwise_avatars.imp fun h => h.imp_right fun h => ⟨hwanted, h⟩
  · exact htidy.settled.imp .inl

theorem mem_of_mem_beforeClosing {settings : Settings} {wanted : NameSet}
    (hd : d ∈ (beforeClosing settings wanted c).details) (huri : d.uri ≠ none) : d ∈ c.details := by
  have htidy := tidy_beforeAvatars settings wanted c
  rw [beforeClosing, Step.applyIfWanted] at hd
  split at hd
  · exact htidy.mem_of_mem_avatars hd huri
  · exact htidy.known d hd huri

/-- After all steps two details of a contact are equal only if they are avatars made of details that
are not, or had one URI and differed in nothing but links that are then added. -/
theorem pairwise_complete (settings : Settings) (wanted : NameSet) (c : Contact) :
    (complete settings wanted c).details.Pairwise fun d e => (d == e) = true →
      wanted.contains Names.avatar = true ∧ AreAvatarsOf c d e ∨ AreLinkedOf c d e := by
  rw [complete_eq]
  have hpairs := pairwise_beforeClosing settings wanted c
  refine List.pairwise_map.mpr (hpairs.imp fun {d e} h heq => ?_)
  rcases h with h | ⟨hwanted, s, t, hst, hs, ht, rfl, rfl⟩
  · exact .inr (areLinkedOf_of_beq_closed (fun d => mem_of_mem_beforeClosing) h heq)
  · -- avatars have no URI, and so no links back
    refine .inl ⟨hwanted, s, t, hst, hs, ht, ?_, ?_⟩
    · exact Contact.closed_of_uri_eq_none _ (avatarOf_uri s)
    · exact Contact.closed_of_uri_eq_none _ (avatarOf_uri t)

/-- Two numbers, of which one misses the link of the other to a third, and two avatars that show the
same. -/
def twins : Contact :=
  { id := ⟨.person, 1⟩
    details := [
      { name := Names.phoneNumber, uri := some "tel:1", links := ["tel:2"] },
      { name := Names.phoneNumber, uri := some "tel:1" },
      { name := Names.phoneNumber, uri := some "tel:2", links := ["tel:1"] },
      { name := Names.personalAvatar, values := .ofList [(Names.imageUrl, .url "file:amy")]
        uri := some "avatar:1" },
      { name := Names.personalAvatar, values := .ofList [(Names.imageUrl, .url "file:amy")]
        uri := some "avatar:2" }] }

/-- No two details of the contact are equal. Closing links makes the two numbers equal, and the two
avatars are when they are wanted. -/
theorem not_pairwise_complete_twins :
    (twins.details.Pairwise fun d e => (d == e) = false) ∧
    ¬ ((complete default ∅ twins).details.Pairwise fun d e => (d == e) = false) ∧
    ¬ (((complete default (.ofNames [Names.avatar]) twins).detailsNamed Names.avatar).Pairwise
      fun d e => (d == e) = false) := by
  refine ⟨?_, ?_, ?_⟩
  · decide
  · decide
  · decide

end ContactGraph.Computed
