import ContactGraph.Proofs.Computed.Distinct
import ContactGraph.Proofs.Contact.Detail
import ContactGraph.Proofs.Result.Rows
import ContactGraph.Proofs.Sort.Keys

/-!
# The global presence

The leaders of a list of presences are found in one pass. Each presence that is looked at keeps the
most available and the most recent one of those so far (`Leaders.LeadsIn.next`), so the leaders lead
in the whole list (`leadsIn_of_leaders?`), whatever its order. The global presence is made of these
two alone (`exists_globalPresence`). Times do not decide between presences that are as available as
each other : the first of them counts, and it may be in another state than the latest
(`exists_globalPresence_state`).
-/

namespace ContactGraph.Computed

variable {ds : List Detail} {d e : Detail} {l : Leaders}

/-! ## Times -/

/-- A time is not after another; no time is before all others. -/
def NotAfter (s t : Option Instant) : Prop :=
  ∀ a, s = some a → ∃ b, t = some b ∧ (a.order b).isLE

namespace NotAfter

variable {s t u : Option Instant}

theorem of_none (t : Option Instant) : NotAfter none t :=
  fun _ h => by cases h

theorem refl (t : Option Instant) : NotAfter t t :=
  fun a h => ⟨a, h, Ordering.isLE_of_eq_eq (@Std.ReflCmp.compare_self _ Instant.order _ a)⟩

theorem trans (hst : NotAfter s t) (htu : NotAfter t u) : NotAfter s u := by
  intro a ha
  obtain ⟨b, hb, hab⟩ := hst a ha
  obtain ⟨c, hc, hbc⟩ := htu b hb
  exact ⟨c, hc, Std.TransCmp.isLE_trans hab hbc⟩

end NotAfter

theorem isLater_eq_false_iff {s t : Option Instant} : isLater s t = false ↔ NotAfter s t := by
  cases s with
  | none => exact iff_of_true rfl (.of_none t)
  | some a =>
    cases t with
    | none => simp [isLater, NotAfter]
    | some b => simp [isLater, NotAfter, Ordering.isLE_iff_ne_gt]

/-- A later time is not followed by the earlier one. -/
theorem notAfter_of_isLater {s t : Option Instant} (h : isLater s t = true) : NotAfter t s := by
  cases t with
  | none => exact .of_none s
  | some b =>
    cases s with
    | none => cases h
    | some a =>
      have hgt : a.order b = .gt := of_decide_eq_true h
      have hlt : b.order a = .lt := Std.OrientedCmp.lt_of_gt hgt
      rintro _ ⟨⟩
      exact ⟨a, rfl, Ordering.isLE_of_eq_lt hlt⟩

/-! ## Leaders -/

/-- A presence is the first of the most available ones. -/
def IsFirstMostAvailable (ds : List Detail) (d : Detail) : Prop :=
  ∃ front back, ds = front ++ d :: back ∧ (∀ e ∈ front, rankOf e < rankOf d) ∧
    ∀ e ∈ back, rankOf e ≤ rankOf d

/-- A presence is reported as late as any other. -/
def IsMostRecent (ds : List Detail) (d : Detail) : Prop :=
  d ∈ ds ∧ ∀ e ∈ ds, NotAfter (timeOf e) (timeOf d)

theorem IsFirstMostAvailable.rank_le (h : IsFirstMostAvailable ds d) (he : e ∈ ds) :
    rankOf e ≤ rankOf d := by
  obtain ⟨front, back, rfl, hfront, hback⟩ := h
  rcases List.mem_append.mp he with he | he
  · exact Nat.le_of_lt (hfront e he)
  · rcases List.mem_cons.mp he with rfl | he
    · exact Nat.le_refl _
    · exact hback e he

/-- Leaders are the most available and the most recent of some presences. -/
structure Leaders.LeadsIn (l : Leaders) (ds : List Detail) : Prop where
  /-- The most available presence. -/
  available : IsFirstMostAvailable ds l.available
  /-- The most recent presence. -/
  recent : IsMostRecent ds l.recent

namespace Leaders

/-- A presence as recent as the most recent one takes its place when it is more available. -/
theorem next_eq (l : Leaders) (d : Detail) : l.next d =
    ⟨if rankOf l.available < rankOf d then d else l.available,
      if isLater (timeOf d) (timeOf l.recent) = true ∨
        rankOf l.available < rankOf d ∧ timeOf d = timeOf l.recent then d else l.recent⟩ := by
  by_cases hrank : rankOf l.available < rankOf d
  · by_cases htime : timeOf d = timeOf l.recent
    · simp only [next, hrank, htime, if_true, and_self, or_true]
      split <;> rfl
    · simp only [next, hrank, htime, if_true, if_false, and_false, or_false]
      split <;> rfl
  · simp only [next, hrank, if_false, false_and, or_false]
    split <;> rfl

/-- The most recent presence stays or is the one looked at, whichever is not before the other. -/
theorem next_recent (l : Leaders) (d : Detail) :
    (l.next d).recent = l.recent ∧ NotAfter (timeOf d) (timeOf l.recent) ∨
      (l.next d).recent = d ∧ NotAfter (timeOf l.recent) (timeOf d) := by
  rw [next_eq]
  dsimp only
  split
  · rename_i h
    rcases h with hlater | ⟨-, htime⟩
    · exact .inr ⟨rfl, notAfter_of_isLater hlater⟩
    · exact .inr ⟨rfl, htime ▸ .refl _⟩
  · rename_i h
    exact .inl ⟨rfl, isLater_eq_false_iff.mp (Bool.eq_false_iff.mpr fun hlater => h (.inl hlater))⟩

theorem next_self (d : Detail) : (⟨d, d⟩ : Leaders).next d = ⟨d, d⟩ := by
  unfold next
  dsimp only
  rw [if_neg (Nat.lt_irrefl _)]
  split <;> rfl

/-- One more presence is looked at. -/
theorem LeadsIn.next (h : l.LeadsIn ds) (d : Detail) : (l.next d).LeadsIn (ds ++ [d]) := by
  constructor
  · rw [next_eq]
    dsimp only
    split
    · rename_i hrank
      exact ⟨ds, [], rfl, fun e he => Nat.lt_of_le_of_lt (h.available.rank_le he) hrank, nofun⟩
    · rename_i hrank
      obtain ⟨front, back, hds, hfront, hback⟩ := h.available
      refine ⟨front, back ++ [d], by rw [hds, List.append_assoc, List.cons_append], hfront, ?_⟩
      rw [List.forall_mem_append, List.forall_mem_singleton]
      exact ⟨hback, Nat.not_lt.mp hrank⟩
  · obtain ⟨hmem, hlast⟩ := h.recent
    rw [IsMostRecent, List.forall_mem_append, List.forall_mem_singleton]
    rcases l.next_recent d with ⟨heq, hd⟩ | ⟨heq, hd⟩
    · rw [heq]
      exact ⟨List.mem_append_left [d] hmem, hlast, hd⟩
    · rw [heq]
      exact ⟨List.mem_append_right ds List.mem_cons_self, fun e he => (hlast e he).trans hd,
        .refl _⟩

/-- All presences of a list are looked at, from left to right. -/
theorem LeadsIn.foldl_next (h : l.LeadsIn ds) (es : List Detail) :
    (es.foldl Leaders.next l).LeadsIn (ds ++ es) := by
  -- what has been looked at grows by what is in front of the rest
  induction es generalizing l ds with
  | nil => rwa [List.append_nil]
  | cons e es ih =>
    rw [List.foldl_cons, List.append_cons]
    exact ih (h.next e)

end Leaders

/-- The leaders of a list lead in it. -/
theorem leadsIn_of_leaders? (h : leaders? ds = some l) : l.LeadsIn ds := by
  cases ds with
  | nil => cases h
  | cons d ds =>
    -- the first presence leads at once, so that looking at it changes nothing
    obtain rfl : ds.foldl Leaders.next ⟨d, d⟩ = l := by
      rw [leaders?, List.foldl_cons, Leaders.next_self] at h
      exact Option.some.inj h
    have hfirst : (⟨d, d⟩ : Leaders).LeadsIn [d] :=
      ⟨⟨[], [], rfl, nofun, nofun⟩, List.mem_cons_self, by simpa using NotAfter.refl (timeOf d)⟩
    exact hfirst.foldl_next ds

theorem isSome_leaders?_iff : (leaders? ds).isSome = true ↔ ∃ d, d ∈ ds := by
  cases ds <;> simp [leaders?]

/-! ## What is taken over -/

theorem value?_copyFields (source : Detail) (fields : List String) (d : Detail) (field : String) :
    (copyFields source fields d).value? field =
      if field ∈ fields then (source.value? field).or (d.value? field) else d.value? field := by
  unfold copyFields
  induction fields generalizing d with
  | nil => rfl
  | cons first fields ih =>
    rw [List.foldl_cons, ih]
    by_cases hfirst : field = first
    · subst hfirst
      rw [if_pos List.mem_cons_self]
      cases hsource : source.value? field <;> simp
    · cases source.value? first <;> simp [hfirst]

theorem foldl_addUri_nil (us : List String) : us.foldl Detail.addUri [] = us.eraseDups := by
  induction us using List.reverseRecOn with
  | nil => rfl
  | append_singleton us u ih =>
    rw [List.foldl_append, List.foldl_cons, List.foldl_nil, ih, eraseDups_concat, Detail.addUri]
    simp only [List.contains_iff_mem, List.mem_eraseDups]

/-- A global presence is made of two presences : what is said of the state comes from the one, what
was told last from the other. -/
structure SumsUp (global available recent : Detail) : Prop where
  /-- Its name. -/
  name_eq : global.name = Names.globalPresence
  /-- What is said of the state. -/
  state_eq : ∀ field ∈ [Names.presenceState, Names.presenceStateText,
    Names.presenceStateImageUrl], global.value? field = available.value? field
  /-- What was told last, and when. -/
  message_eq : ∀ field ∈ [Names.nickname, Names.timestamp, Names.customMessage],
    global.value? field = recent.value? field
  /-- Nothing else is said. -/
  other_eq : ∀ field ∉ [Names.presenceState, Names.presenceStateText, Names.presenceStateImageUrl,
    Names.nickname, Names.timestamp, Names.customMessage], global.value? field = none
  /-- It is linked to both presences, to the more recent one first. -/
  links_eq : global.links = (recent.uri.toList ++ available.uri.toList).eraseDups
  /-- It cannot be linked to, is for no context and can be changed. -/
  rest_eq : global.uri = none ∧ global.context = none ∧ global.readOnly = false

theorem Leaders.value?_detail (l : Leaders) (field : String) : l.detail.value? field =
    if field ∈ availableFields then
      (l.available.value? field).or (if field ∈ recentFields then l.recent.value? field else none)
    else if field ∈ recentFields then l.recent.value? field else none := by
  have hempty : ({ name := Names.globalPresence } : Detail).value? field = none := rfl
  have hlinks : l.detail.value? field = (copyFields l.available availableFields
      (copyFields l.recent recentFields { name := Names.globalPresence })).value? field := by
    rw [Leaders.detail, Detail.linkAll_eq]
    rfl
  rw [hlinks, value?_copyFields, value?_copyFields, hempty, Option.or_none]

theorem Leaders.sumsUp_detail (l : Leaders) : SumsUp l.detail l.available l.recent := by
  have hparts : l.detail = {
      name := Names.globalPresence
      values := l.detail.values
      links := (l.recent.uri.toList ++ l.available.uri.toList).eraseDups } := by
    rw [Leaders.detail, Detail.linkAll_eq, copyFields_eq, copyFields_eq, ← foldl_addUri_nil]
  have happart : ∀ field ∈ availableFields, field ∉ recentFields := by decide
  constructor
  · rw [hparts]
  · intro field hfield
    have havailable : field ∈ availableFields := hfield
    rw [l.value?_detail, if_pos havailable, if_neg (happart field havailable), Option.or_none]
  · intro field hfield
    have hrecent : field ∈ recentFields := hfield
    rw [l.value?_detail, if_neg fun h => happart field h hrecent, if_pos hrecent]
  · intro field hfield
    obtain ⟨havailable, hrecent⟩ : field ∉ availableFields ∧ field ∉ recentFields :=
      not_or.mp fun h => hfield (List.mem_append.mpr h)
    rw [l.value?_detail, if_neg havailable, if_neg hrecent]
  · rw [hparts]
  · rw [hparts]
    exact ⟨rfl, rfl, rfl⟩

/-! ## The global presence -/

theorem globalPresence_eq (c : Contact) : globalPresence c = { c with
    details := c.details.filter (·.name ≠ Names.globalPresence) ++
      ((leaders? (c.detailsNamed Names.presence)).map Leaders.detail).toList } := by
  have hpresences : (c.without Names.globalPresence).detailsNamed Names.presence =
      c.detailsNamed Names.presence :=
    Contact.filter_without fun d hd => by simp [hd, Names.globalPresence, Names.presence]
  unfold globalPresence
  dsimp only
  rw [hpresences]
  cases leaders? (c.detailsNamed Names.presence) with
  | none => exact congrArg (fun ds => { c with details := ds }) (List.append_nil _).symm
  | some l => rfl

/-- A global presence stands behind all other details just when there is a presence. It sums up the
first of the most available presences and one of the most recent ones. -/
theorem exists_globalPresence (c : Contact) : ∃ new : Option Detail,
    globalPresence c = { c with
      details := c.details.filter (·.name ≠ Names.globalPresence) ++ new.toList } ∧
    (new.isSome = true ↔ ∃ d ∈ c.details, d.name = Names.presence) ∧
    ∀ global ∈ new, ∃ available recent,
      IsFirstMostAvailable (c.detailsNamed Names.presence) available ∧
      IsMostRecent (c.detailsNamed Names.presence) recent ∧ SumsUp global available recent := by
  refine ⟨_, globalPresence_eq c, ?_, fun global hglobal => ?_⟩
  · rw [Option.isSome_map, isSome_leaders?_iff]
    simp [Contact.detailsNamed]
  · obtain ⟨l, hl, rfl⟩ := Option.map_eq_some_iff.mp hglobal
    have hleads := leadsIn_of_leaders? hl
    exact ⟨l.available, l.recent, hleads.available, hleads.recent, l.sumsUp_detail⟩

/-! ## Equally available presences -/

/-- The presences that no other is more available than. -/
def mostAvailable (ds : List Detail) : List Detail :=
  ds.filter fun d => ds.all fun e => rankOf e ≤ rankOf d

/-- A presence is the latest of the most available ones. -/
def IsLatest (ds : List Detail) (d : Detail) : Prop :=
  IsMostRecent (mostAvailable ds) d

theorem mem_mostAvailable_iff :
    d ∈ mostAvailable ds ↔ d ∈ ds ∧ ∀ e ∈ ds, rankOf e ≤ rankOf d := by
  simp [mostAvailable]

theorem IsFirstMostAvailable.mem_mostAvailable (h : IsFirstMostAvailable ds d) :
    d ∈ mostAvailable ds := by
  refine mem_mostAvailable_iff.mpr ⟨?_, fun e he => h.rank_le he⟩
  obtain ⟨front, back, rfl, -, -⟩ := h
  simp

theorem exists_isMostRecent (h : d ∈ ds) : ∃ e, IsMostRecent ds e := by
  obtain ⟨l, hl⟩ := Option.isSome_iff_exists.mp (isSome_leaders?_iff.mpr ⟨d, h⟩)
  exact ⟨l.recent, (leadsIn_of_leaders? hl).recent⟩

/-- A state is the only one as available as it is, but for the hidden and the away ones. -/
theorem eq_of_rank_eq {s t : PresenceState} (h : s.rank = t.rank) (hhidden : s.rank ≠ 1)
    (haway : s.rank ≠ 2) : s = t := by
  cases s <;> cases t <;> simp [PresenceState.rank] at h hhidden haway ⊢

/-- The global presence has the state of the first of the most available presences, whenever these
were reported. That is the state of a latest of them unless two states share how available they are,
and every latest one has the other state. -/
theorem exists_globalPresence_state {c : Contact} (h : ∃ d ∈ c.details, d.name = Names.presence) :
    ∃ global first, (globalPresence c).detailsNamed Names.globalPresence = [global] ∧
      IsFirstMostAvailable (c.detailsNamed Names.presence) first ∧
      global.value? Names.presenceState = first.value? Names.presenceState ∧
      (∃ latest, IsLatest (c.detailsNamed Names.presence) latest) ∧
      ((∃ latest, IsLatest (c.detailsNamed Names.presence) latest ∧
          PresenceState.ofDetail global = PresenceState.ofDetail latest) ↔
        ¬ ((rankOf first = 1 ∨ rankOf first = 2) ∧
          ∀ latest, IsLatest (c.detailsNamed Names.presence) latest →
            PresenceState.ofDetail first ≠ PresenceState.ofDetail latest)) := by
  obtain ⟨d, hd⟩ : ∃ d, d ∈ c.detailsNamed Names.presence := by
    simpa [Contact.detailsNamed] using h
  obtain ⟨l, hl⟩ := Option.isSome_iff_exists.mp (isSome_leaders?_iff.mpr ⟨d, hd⟩)
  have hfirst := (leadsIn_of_leaders? hl).available
  obtain ⟨latest, hlatest⟩ := exists_isMostRecent hfirst.mem_mostAvailable
  have hglobal := l.sumsUp_detail
  have hstate := hglobal.state_eq Names.presenceState List.mem_cons_self
  have hsame : PresenceState.ofDetail l.detail = PresenceState.ofDetail l.available := by
    rw [PresenceState.ofDetail, hstate, PresenceState.ofDetail]
  refine ⟨l.detail, l.available, ?_, hfirst, hstate, ⟨latest, hlatest⟩, ?_⟩
  · rw [globalPresence_eq, hl]
    simp [Contact.detailsNamed, List.filter_append, List.filter_filter, hglobal.name_eq]
  · rw [hsame]
    constructor
    · rintro ⟨latest, hlatest, heq⟩ ⟨-, hne⟩
      exact hne latest hlatest heq
    · intro hnot
      by_contra hnone
      have hne (latest : Detail) (hlatest : IsLatest (c.detailsNamed Names.presence) latest) :
          PresenceState.ofDetail l.available ≠ PresenceState.ofDetail latest :=
        fun heq => hnone ⟨latest, hlatest, heq⟩
      -- the latest one is as available as the first, so their states are the same or share a rank
      obtain ⟨hmem, hmost⟩ := mem_mostAvailable_iff.mp hlatest.1
      have hrank : rankOf l.available = rankOf latest :=
        Nat.le_antisymm (hmost l.available (mem_mostAvailable_iff.mp hfirst.mem_mostAvailable).1)
          (hfirst.rank_le hmem)
      refine hnot ⟨?_, hne⟩
      by_contra hrest
      exact hne latest hlatest
        (eq_of_rank_eq hrank (fun h => hrest (.inl h)) fun h => hrest (.inr h))

/-- A presence in a state, reported at a time. -/
def presenceAt (state : PresenceState) (time : Instant) : Detail :=
  { name := Names.presence
    values := .ofList [(Names.presenceState, .text state.name), (Names.timestamp, .instant time)] }

/-- A person who was away at noon, and away for long ten minutes after. -/
def awayTwice : Contact :=
  { id := ⟨.person, 1⟩
    details := [
      presenceAt .away ⟨⟨2024, 1, 1⟩, 43200, 0, by decide, by decide⟩,
      presenceAt .extendedAway ⟨⟨2024, 1, 1⟩, 43800, 0, by decide, by decide⟩] }

/-- Both states are as available, and the one that was reported first is kept. -/
theorem exists_globalPresence_state_awayTwice : (∃ d ∈ awayTwice.details, d.name = Names.presence) ∧
    ∃ global first, (globalPresence awayTwice).detailsNamed Names.globalPresence = [global] ∧
      IsFirstMostAvailable (awayTwice.detailsNamed Names.presence) first ∧
      global.value? Names.presenceState = first.value? Names.presenceState ∧
      PresenceState.ofDetail global = .away := by
  have hpresence : ∃ d ∈ awayTwice.details, d.name = Names.presence :=
    ⟨_, List.mem_cons_self, rfl⟩
  obtain ⟨global, first, hglobal, hfirst, hstate, -⟩ := exists_globalPresence_state hpresence
  have haway : ((globalPresence awayTwice).detailsNamed Names.globalPresence).map
      PresenceState.ofDetail = [.away] := by
    rfl
  rw [hglobal] at haway
  exact ⟨hpresence, global, first, hglobal, hfirst, hstate, List.singleton_inj.mp haway⟩

/-- The state of the global presence is not that of the latest of equally available presences. -/
theorem not_isLatest_awayTwice : (∃ d ∈ awayTwice.details, d.name = Names.presence) ∧
    ¬ ∃ global ∈ (globalPresence awayTwice).details, global.name = Names.globalPresence ∧
      ∃ latest, IsLatest (awayTwice.detailsNamed Names.presence) latest ∧
        PresenceState.ofDetail global = PresenceState.ofDetail latest := by
  refine ⟨⟨_, List.mem_cons_self, rfl⟩, ?_⟩
  rintro ⟨global, hmem, hname, latest, hlatest, heq⟩
  have haway : ∀ d ∈ (globalPresence awayTwice).details, d.name = Names.globalPresence →
      PresenceState.ofDetail d = .away := by
    decide
  have hlater : ∀ d ∈ awayTwice.detailsNamed Names.presence, PresenceState.ofDetail d = .away →
      ∃ e ∈ mostAvailable (awayTwice.detailsNamed Names.presence),
        isLater (timeOf e) (timeOf d) = true := by
    decide
  rw [haway global hmem hname] at heq
  obtain ⟨e, he, hlate⟩ := hlater latest (mem_mostAvailable_iff.mp hlatest.1).1 heq.symm
  rw [isLater_eq_false_iff.mpr (hlatest.2 e he)] at hlate
  cases hlate

end ContactGraph.Computed
