import ContactGraph.Proofs.Filter.InstanceIds
import ContactGraph.Proofs.Phone.LocalNumber

/-!
# Filters on phone numbers

A filter on a phone number looks for its local number among those that the store keeps. A number of
full length may stand at the end of a kept one, a shorter one has to be the kept one. No local
number is longer, so in both cases the filter finds just the numbers with the same local number
(`matches_localText_iff`), and it does not matter how they are written
(`Scope.comparesLocalNumbers`).
-/

namespace ContactGraph

open Query Vocabulary

/-! ## Kept numbers -/

/-- The local number of a text. -/
def Phone.localText (length : Nat) (number : String) : String :=
  String.ofList (localNumber length number.toList)

/-- The store keeps the local numbers of the numbers written at a resource, and no others. -/
def Store.KeepsLocalNumbers (T : Store) (length : Nat) (Written : Node → String → Prop) : Prop :=
  ∀ r x, T.Edge r Maemo.localPhoneNumber x ↔
    ∃ number, Written r number ∧ x = .text (Phone.localText length number)

/-- How the local number of a filter is compared with the kept ones : it may be the end of one when
it has full length. -/
def Phone.localFlags (length : Nat) (wanted : String) : MatchFlags :=
  ⟨if length ≤ (localNumber length wanted.toList).length then .endsWith else .exactly, true⟩

/-- A kept local number is found just when it is the local number of the filter. -/
theorem Phone.matches_localText_iff {length : Nat} {number wanted : String} :
    (localFlags length wanted).Matches (localText length number) (localText length wanted) ↔
      localNumber length wanted.toList = localNumber length number.toList := by
  have hlength := (isLocalNumber_localNumber length number.toList).length_le
  rw [MatchFlags.Matches, localFlags, if_neg (by simp [MatchFlags.folds])]
  dsimp only
  split
  · rename_i hfull
    simp only [MatchMode.Relates, localText, String.toList_ofList]
    exact ⟨fun h => h.eq_of_length_le (hlength.trans hfull), fun h => h ▸ List.suffix_refl _⟩
  · simp only [MatchMode.Relates, localText, String.ofList_inj]
    exact eq_comm

namespace Query

variable {s : Scope} {T : Store} {c : Iri} {n : Nat} {d : DetailDefinition} {v : Value}

/-- The condition on a phone number is true when a matching local number is kept with a resource of
the detail. -/
theorem isTrue_phoneMatch_iff : T.IsTrue (Valuation.contact c) (phoneMatch s d v n).1 ↔
    ∃ r, T.Path d.fullChain (.resource c) r ∧ ∃ x, T.Edge r Maemo.localPhoneNumber x ∧
      (Phone.localFlags s.settings.phoneDigits v.toText).Matches x.str
        (Phone.localText s.settings.phoneDigits v.toText) := by
  have hexpr : (phoneMatch s d v n).1 = .holds ((walk contactVar d.fullChain n).1.group ++ [
      edge (walk contactVar d.fullChain n).1.target Maemo.localPhoneNumber
        (.numbered (n + d.fullChain.length + 1)),
      .filter (textExpr (.str (.var (.numbered (n + d.fullChain.length + 1))))
        (Phone.localText s.settings.phoneDigits v.toText)
        (Phone.localFlags s.settings.phoneDigits v.toText))]) := by
    rw [← walk_snd contactVar d.fullChain n]
    rfl
  rw [hexpr]
  refine isTrue_holds_walk_append_iff contact_contactVar (fun k _ => contact_numbered k)
    fun γ r hr _ hfree => ?_
  rw [Store.isTrue_holds_edge_iff hr (hfree _ (Nat.lt_succ_self _))]
  simp only [Store.isTrue_holds_filter_iff, Store.isTrue_textExpr (Valuation.set_self γ _ _)]

/-- A filter on phone numbers is the condition on the detail. -/
theorem fieldMatch_phone {f : FieldDefinition} (hname : d.name = Names.phoneNumber)
    (caseSensitive : Bool) :
    fieldMatch s d f v ⟨.phoneNumber, caseSensitive⟩ = phoneMatch s d v := by
  rw [fieldMatch, hname]
  rfl

/-- Phone numbers are compared by their local numbers alone. -/
structure Scope.ComparesLocalNumbers (s : Scope) : Prop where
  /-- The condition for a number is true of the contacts with a number whose local number is the
  same. -/
  isTrue_iff {T : Store} {Written : Node → String → Prop}
    (hkept : T.KeepsLocalNumbers s.settings.phoneDigits Written) (d : DetailDefinition) (v : Value)
    (c : Iri) (n : Nat) :
    T.IsTrue (Valuation.contact c) (phoneMatch s d v n).1 ↔
      ∃ r number, T.Path d.fullChain (.resource c) r ∧ Written r number ∧
        Phone.localNumber s.settings.phoneDigits v.toText.toList =
          Phone.localNumber s.settings.phoneDigits number.toList
  /-- A filter that compares phone numbers is this condition. -/
  filter {d : DetailDefinition} {f : FieldDefinition} (h : s.CanCompare d f)
    (hname : d.name = Names.phoneNumber) (v : Value) (caseSensitive : Bool) (n : Nat) :
    restriction s (.fieldIs d.name f.name v ⟨.phoneNumber, caseSensitive⟩) n =
      .ok (phoneMatch s d v n)
  /-- A number has the same local number however it is written. -/
  eq_of_rewrites {number other : List Char}
    (h : Relation.EqvGen Phone.Rewrites number other) :
    Phone.localNumber s.settings.phoneDigits number =
      Phone.localNumber s.settings.phoneDigits other
  /-- It is the end of what is dialled, cut to length, and its own local number. -/
  isLocalNumber (number : List Char) :
    Phone.IsLocalNumber s.settings.phoneDigits number
      (Phone.localNumber s.settings.phoneDigits number)

/-- Whatever the length of local numbers and the numbers that the store keeps them of, phone numbers
are compared by their local numbers alone. -/
theorem Scope.comparesLocalNumbers (s : Scope) : s.ComparesLocalNumbers where
  isTrue_iff hkept d v c n := by
    rw [isTrue_phoneMatch_iff]
    constructor
    · rintro ⟨r, hpath, x, hedge, hmatch⟩
      obtain ⟨number, hwritten, rfl⟩ := (hkept r x).mp hedge
      exact ⟨r, number, hpath, hwritten, Phone.matches_localText_iff.mp hmatch⟩
    · rintro ⟨r, number, hpath, hwritten, hlocal⟩
      exact ⟨r, hpath, _, (hkept r _).mpr ⟨number, hwritten, rfl⟩,
        Phone.matches_localText_iff.mpr hlocal⟩
  filter h hname v caseSensitive n := by
    rw [restriction_fieldIs h, fieldMatch_phone hname]
  eq_of_rewrites h := Phone.localNumber_eq_of_rewrites h _
  isLocalNumber number := Phone.isLocalNumber_localNumber _ number

/-- Amy, who can be reached at home. -/
def homeStore : Store :=
  { triples := [
      ⟨.resource "amy", Nco.hasAffiliation, .resource "home", none⟩,
      ⟨.resource "home", Nco.hasPhoneNumber, .resource "tel:1", none⟩,
      ⟨.resource "tel:1", Maemo.localPhoneNumber, .text "1234567", none⟩] }

/-- Her number is written with the code of her country. -/
def IsHomeNumber (r : Node) (number : String) : Prop :=
  r = .resource "tel:1" ∧ number = "+358 40 123 4567"

theorem keepsLocalNumbers_homeStore : homeStore.KeepsLocalNumbers 7 IsHomeNumber := by
  have hlocal : Phone.localText 7 "+358 40 123 4567" = "1234567" := by decide
  have hhome : Nco.hasAffiliation ≠ Maemo.localPhoneNumber := by decide
  have hnumber : Nco.hasPhoneNumber ≠ Maemo.localPhoneNumber := by decide
  intro r x
  simp [Store.Edge, homeStore, IsHomeNumber, hlocal, hhome, hnumber, eq_comm]

/-- A filter finds her by the same number in Arabic digits, with a separator and an extension. -/
theorem isTrue_phoneMatch_amy : homeStore.IsTrue (Valuation.contact "amy")
    (phoneMatch ⟨Standard.person, {}, {}⟩ Standard.phoneNumber (.text "٠٤٠ ١٢٣-٤٥٦٧x12") 0).1 := by
  have hcompares := Scope.comparesLocalNumbers ⟨Standard.person, {}, {}⟩
  refine (hcompares.isTrue_iff keepsLocalNumbers_homeStore _ _ _ _).mpr ?_
  refine ⟨.resource "tel:1", "+358 40 123 4567", ?_, ⟨rfl, rfl⟩, by decide⟩
  exact ⟨.resource "home", by decide, .resource "tel:1", by decide, rfl⟩

end Query

end ContactGraph
