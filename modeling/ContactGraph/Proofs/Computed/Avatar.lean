import ContactGraph.Proofs.Computed.Presence

/-!
# Avatars

Avatars are made of the personal ones of a contact and of those of its accounts (`exists_avatars`).
Each shows what its source shows and nothing else (`Shows`). Those of accounts are ordered by the
first presence that links to the account (`IsRanked`), and equally available ones stay in the order
they had. All other details stand in front, as they were.
-/

namespace ContactGraph.Computed

/-- How available the account of an avatar is : as the first presence that links to it says. -/
inductive IsRanked (c : Contact) (d : Detail) : Nat → Prop
  /-- A presence links to the URI of the avatar, and none in front of it does. -/
  | presence {uri : String} {front back : List Detail} {first : Detail} (huri : d.uri = some uri)
      (hsplit : c.detailsNamed Names.presence = front ++ first :: back)
      (hfront : ∀ e ∈ front, uri ∉ e.links) (hfirst : uri ∈ first.links) :
      IsRanked c d (rankOf first)
  /-- No presence does, or there is no URI. -/
  | unknown (hnone : ∀ uri, d.uri = some uri →
      ∀ e ∈ c.detailsNamed Names.presence, uri ∉ e.links) : IsRanked c d 0

theorem isRanked_accountRank (c : Contact) (d : Detail) : IsRanked c d (accountRank c d) := by
  rw [accountRank]
  cases huri : d.uri with
  | none => exact .unknown fun uri h => by rw [huri] at h; cases h
  | some uri =>
    dsimp only
    split
    · rename_i first hfind
      obtain ⟨hfirst, front, back, hsplit, hfront⟩ := List.find?_eq_some_iff_append.mp hfind
      refine .presence huri hsplit (fun e he => ?_) (List.contains_iff_mem.mp hfirst)
      simpa using hfront e he
    · rename_i hfind
      refine .unknown fun other hother e he => ?_
      obtain rfl : uri = other := Option.some.inj (huri.symm.trans hother)
      simpa using List.find?_eq_none.mp hfind e he

/-- An avatar shows the image of its source where and as that does, and is linked to the given URIs
alone. -/
structure Shows (avatar source : Detail) (links : List String) : Prop where
  /-- Its name. -/
  name_eq : avatar.name = Names.avatar
  /-- The image, if the source has one. -/
  image_eq : avatar.value? Names.imageUrl = source.value? Names.imageUrl
  /-- No other field has a value. -/
  other_eq : ∀ field, field ≠ Names.imageUrl → avatar.value? field = none
  /-- What it is linked to. -/
  links_eq : avatar.links = links
  /-- It cannot be linked to. -/
  uri_eq : avatar.uri = none
  /-- Where it applies. -/
  context_eq : avatar.context = source.context
  /-- Whether it comes from a foreign source. -/
  readOnly_eq : avatar.readOnly = source.readOnly

theorem shows_personalAvatar (source : Detail) : Shows (personalAvatar source) source [] := by
  have hvalue (field : String) : (personalAvatar source).value? field =
      if field = Names.imageUrl then source.value? field else none := by
    have hempty : ({ name := Names.avatar } : Detail).value? field = none := rfl
    calc (personalAvatar source).value? field
        = (copyFields source [Names.imageUrl] { name := Names.avatar }).value? field := rfl
      _ = if field = Names.imageUrl then source.value? field else none := by
        rw [value?_copyFields, hempty, Option.or_none]
        simp only [List.mem_singleton]
  constructor
  case image_eq => rw [hvalue, if_pos rfl]
  case other_eq => exact fun field hfield => by rw [hvalue, if_neg hfield]
  all_goals rw [personalAvatar_eq]

theorem shows_onlineAvatar (source : Detail) :
    Shows (onlineAvatar source) source source.uri.toList := by
  have hplain := shows_personalAvatar source
  have hlinked : onlineAvatar source =
      { personalAvatar source with links := source.uri.toList } := by
    rw [onlineAvatar, Detail.linkAll_eq, hplain.links_eq]
    cases source.uri <;> rfl
  rw [hlinked]
  exact { hplain with links_eq := rfl }

/-- The personal avatars of a contact, then those of its accounts, take the place of all avatars
behind the other details. Each shows its source, that of an account linked to the account. Those of
accounts are ordered by how available these are, and equally available ones as they were. -/
theorem exists_avatars (c : Contact) : ∃ (personal online sources : List Detail)
      (rank : Detail → Nat),
    avatars c = { c with details := c.details.filter (fun d =>
        d.name ∉ [Names.avatar, Names.personalAvatar, Names.onlineAvatar]) ++ personal ++ online } ∧
    List.Forall₂ (fun avatar source => Shows avatar source []) personal
      (c.detailsNamed Names.personalAvatar) ∧
    List.Forall₂ (fun avatar source => Shows avatar source source.uri.toList) online sources ∧
    (∀ d, IsRanked c d (rank d)) ∧
    sources.Perm (c.detailsNamed Names.onlineAvatar) ∧
    sources.Pairwise (fun d e => rank e ≤ rank d) ∧
    ∀ n, sources.filter (rank · = n) =
      (c.detailsNamed Names.onlineAvatar).filter (rank · = n) := by
  have hweak := (Sort.weakOrderOn_key (accountRank c) fun _ => True).flip
  refine ⟨_, _, rankedAvatars c, accountRank c, avatars_eq c, ?_, ?_, isRanked_accountRank c,
    Sort.stable_perm, ?_, fun n => ?_⟩
  · exact List.forall₂_map_left_iff.mpr (List.forall₂_same.mpr fun d _ => shows_personalAvatar d)
  · exact List.forall₂_map_left_iff.mpr (List.forall₂_same.mpr fun d _ => shows_onlineAvatar d)
  · exact (Sort.pairwise_stable hweak fun _ _ => trivial).imp fun h =>
      Nat.not_lt.mp (of_decide_eq_false h)
  · -- avatars are tied when they have one rank
    refine Sort.filter_stable hweak (fun _ _ => trivial) fun d hd e => ?_
    rw [Bool.eq_iff_iff, Sort.tied_iff]
    simp only [decide_eq_true_eq, decide_eq_false_iff_not] at hd ⊢
    omega

end ContactGraph.Computed
