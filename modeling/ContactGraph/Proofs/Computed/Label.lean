import ContactGraph.Computed.Label
import ContactGraph.Proofs.Contact.Basic
import ContactGraph.Proofs.Contact.Detail

/-!
# Labels

A contact is labelled by the first of several choices with a text, and a choice has a text just when
a detail has (`firstText_eq_empty_iff`, `fullName_eq_empty_iff`). So a contact goes without a label
only if none of its details can label it (`CanLabel`), whatever the settings prefer.

Labels themselves are no choice, so labelling starts from the contact without them
(`without_displayLabel`) and comes to the same when it is done again (`isLabelled_displayLabel`).
-/

namespace ContactGraph

namespace Computed

/-! ## Texts of choices -/

theorem firstNonempty_eq_empty_iff (texts : List String) :
    firstNonempty texts = "" ↔ ∀ t ∈ texts, t = "" := by
  rw [firstNonempty]
  cases h : texts.find? (· ≠ "") with
  | none => exact iff_of_true rfl fun t ht => by simpa using List.find?_eq_none.mp h t ht
  | some t =>
    have hne : t ≠ "" := by simpa using List.find?_some h
    exact iff_of_false hne fun hall => hne (hall t (List.mem_of_find?_eq_some h))

theorem firstText_eq_empty_iff (c : Contact) (detail field : String) :
    firstText c detail field = "" ↔ ∀ d ∈ c.details, d.name = detail → d.text field = "" := by
  rw [firstText, firstNonempty_eq_empty_iff, List.forall_mem_map]
  simp only [Contact.detailsNamed, List.mem_filter, decide_eq_true_eq, and_imp]

/-- Texts that are not empty make no empty one. -/
theorem intercalate_eq_empty_iff {texts : List String} (h : ∀ t ∈ texts, t ≠ "")
    (separator : String) : String.intercalate separator texts = "" ↔ texts = [] := by
  cases texts with
  | nil => exact iff_of_true rfl rfl
  | cons t ts =>
    refine iff_of_false (fun hempty => h t List.mem_cons_self ?_) (List.cons_ne_nil t ts)
    cases ts with
    | nil => rwa [String.intercalate_singleton] at hempty
    | cons u us =>
      rw [String.intercalate_cons_cons] at hempty
      exact (String.append_eq_empty_iff.mp (String.append_eq_empty_iff.mp hempty).1).1

theorem fullName_eq_empty_iff (order : NameOrder) (c : Contact) :
    fullName order c = "" ↔ firstText c Names.name Names.firstName = "" ∧
      firstText c Names.name Names.lastName = "" := by
  have hparts (a b : String) :
      String.intercalate " " ([a, b].filter (· ≠ "")) = "" ↔ a = "" ∧ b = "" := by
    rw [intercalate_eq_empty_iff fun t ht => by simpa using (List.mem_filter.mp ht).2]
    simp
  cases order with
  | firstLast => exact hparts ..
  | lastFirst => exact (hparts ..).trans and_comm

/-! ## Empty labels -/

/-- A detail with a text that can label its contact. -/
inductive CanLabel (d : Detail) : Prop
  /-- A part of a name, or a label set by hand. -/
  | name (hname : d.name = Names.name) (field : String)
      (hfield : field ∈ [Names.firstName, Names.lastName, Names.customLabel, Names.middleName])
      (htext : d.text field ≠ "")
  /-- A nickname. -/
  | nickname (hname : d.name = Names.nickname) (htext : d.text Names.nickname ≠ "")
  /-- The name of an organization. -/
  | organization (hname : d.name = Names.organization) (htext : d.text Names.name ≠ "")
  /-- An e-mail address. -/
  | emailAddress (hname : d.name = Names.emailAddress) (htext : d.text Names.emailAddress ≠ "")
  /-- The address of an account. -/
  | onlineAccount (hname : d.name = Names.onlineAccount) (htext : d.text Names.accountUri ≠ "")
  /-- A phone number. -/
  | phoneNumber (hname : d.name = Names.phoneNumber) (htext : d.text Names.phoneNumber ≠ "")

theorem label_eq_empty_iff (order : NameOrder) (preferNickname : Bool) (c : Contact) :
    label order preferNickname c = "" ↔ ∀ d ∈ c.details, ¬ CanLabel d := by
  rw [label, firstNonempty_eq_empty_iff]
  simp only [labelChoices, List.forall_mem_cons, fullName_eq_empty_iff, firstText_eq_empty_iff]
  constructor
  · rintro ⟨-, ⟨hfirst, hlast⟩, hcustom, hnick, hmiddle, horganization, hemail, haccount, hphone, -⟩
      d hd hlabel
    cases hlabel with
    | name hname field hfield htext =>
      simp only [List.mem_cons, List.not_mem_nil, or_false] at hfield
      rcases hfield with rfl | rfl | rfl | rfl
      · exact htext (hfirst d hd hname)
      · exact htext (hlast d hd hname)
      · exact htext (hcustom d hd hname)
      · exact htext (hmiddle d hd hname)
    | nickname hname htext => exact htext (hnick d hd hname)
    | organization hname htext => exact htext (horganization d hd hname)
    | emailAddress hname htext => exact htext (hemail d hd hname)
    | onlineAccount hname htext => exact htext (haccount d hd hname)
    | phoneNumber hname htext => exact htext (hphone d hd hname)
  · intro h
    have hempty {name field : String}
        (hlabel : ∀ d : Detail, d.name = name → d.text field ≠ "" → CanLabel d) :
        ∀ d ∈ c.details, d.name = name → d.text field = "" := fun d hd hname =>
      by_contra fun htext => h d hd (hlabel d hname htext)
    have hname (field : String) (hfield : field ∈
        [Names.firstName, Names.lastName, Names.customLabel, Names.middleName]) :=
      hempty fun _ hname htext => .name hname field hfield htext
    have hnickname := hempty fun _ => .nickname
    refine ⟨?_, ⟨hname _ (by simp), hname _ (by simp)⟩, hname _ (by simp), hnickname,
      hname _ (by simp), hempty fun _ => .organization, hempty fun _ => .emailAddress,
      hempty fun _ => .onlineAccount, hempty fun _ => .phoneNumber, nofun⟩
    split
    · exact (firstText_eq_empty_iff ..).mpr hnickname
    · rfl

/-! ## Labelled contacts -/

/-- A label with a text, and nothing else. -/
structure IsLabel (d : Detail) (text : String) : Prop where
  /-- Its name. -/
  name_eq : d.name = Names.displayLabel
  /-- Its text, and no other value. -/
  value_eq : ∀ field, d.value? field = if field = Names.label then some (.text text) else none
  /-- It cannot be linked to. -/
  uri_eq : d.uri = none
  /-- It is linked to nothing. -/
  links_eq : d.links = []
  /-- It applies everywhere. -/
  context_eq : d.context = none
  /-- It is the contact's own. -/
  readOnly_eq : d.readOnly = false

/-- The last detail of a contact, and the only one of its name. -/
def IsLastOfName (d : Detail) (c : Contact) : Prop :=
  ∃ front, c.details = front ++ [d] ∧ ∀ e ∈ front, e.name ≠ d.name

/-- A contact with a label put in place of those it had, and nothing else changed. -/
structure IsLabelled (text : String) (c c' : Contact) : Prop where
  /-- What identifies it. -/
  id_eq : c'.id = c.id
  /-- Its relationships. -/
  relationships_eq : c'.relationships = c.relationships
  /-- All details but labels are there as they were. -/
  others_eq : (c'.without Names.displayLabel).details = (c.without Names.displayLabel).details
  /-- There is one label, at the end, unless its text is empty. -/
  label_iff : (∃ d, IsLabel d text ∧ IsLastOfName d c') ↔ text ≠ ""
  /-- There is no label without a text. -/
  unlabelled : text = "" → c'.detailsNamed Names.displayLabel = []

theorem isLabel_set (text : String) :
    IsLabel (({ name := Names.displayLabel } : Detail).set Names.label (.text text)) text where
  name_eq := rfl
  value_eq := Detail.value?_set _ _ _
  uri_eq := rfl
  links_eq := rfl
  context_eq := rfl
  readOnly_eq := rfl

/-- Labels make no difference to the label. -/
theorem label_without (order : NameOrder) (preferNickname : Bool) (c : Contact) :
    label order preferNickname (c.without Names.displayLabel) = label order preferNickname c := by
  have htext (detail : String) (h : detail ≠ Names.displayLabel) (field : String) :
      firstText (c.without Names.displayLabel) detail field = firstText c detail field := by
    rw [firstText, firstText, Contact.detailsNamed_without h]
  simp only [label, labelChoices, fullName, htext Names.name (by decide),
    htext Names.nickname (by decide), htext Names.organization (by decide),
    htext Names.emailAddress (by decide), htext Names.onlineAccount (by decide),
    htext Names.phoneNumber (by decide)]

/-- Labelling starts from the contact without labels. -/
theorem displayLabel_eq (order : NameOrder) (preferNickname : Bool) (c : Contact) :
    displayLabel order preferNickname c =
      if label order preferNickname c = "" then c.without Names.displayLabel
      else (c.without Names.displayLabel).save (({ name := Names.displayLabel } : Detail).set
        Names.label (.text (label order preferNickname c))) := by
  rw [displayLabel, label_without]

theorem without_displayLabel (order : NameOrder) (preferNickname : Bool) (c : Contact) :
    (displayLabel order preferNickname c).without Names.displayLabel =
      c.without Names.displayLabel := by
  rw [displayLabel_eq]
  split
  · exact c.without_without Names.displayLabel
  · exact ((c.without _).save_without _).trans (c.without_without Names.displayLabel)

theorem isLabelled (order : NameOrder) (preferNickname : Bool) (c : Contact) :
    IsLabelled (label order preferNickname c) c (displayLabel order preferNickname c) where
  id_eq := by
    rw [displayLabel_eq]
    split <;> rfl
  relationships_eq := by
    rw [displayLabel_eq]
    split <;> rfl
  others_eq := by rw [without_displayLabel]
  label_iff := by
    rw [displayLabel_eq]
    constructor
    · rintro ⟨d, hd, front, hdetails, -⟩ hempty
      rw [if_pos hempty] at hdetails
      have hmem : d ∈ (c.without Names.displayLabel).details := by simp [hdetails]
      exact (Contact.mem_without.mp hmem).2 hd.name_eq
    · intro hne
      rw [if_neg hne]
      exact ⟨_, isLabel_set _, _, rfl, fun e he => (Contact.mem_without.mp he).2⟩
  unlabelled hempty := by
    rw [displayLabel_eq, if_pos hempty, Contact.detailsNamed, List.filter_eq_nil_iff]
    intro d hd
    simpa using (Contact.mem_without.mp hd).2

theorem displayLabel_displayLabel (order : NameOrder) (preferNickname : Bool) (c : Contact) :
    displayLabel order preferNickname (displayLabel order preferNickname c) =
      displayLabel order preferNickname c := by
  have hlabel : label order preferNickname (displayLabel order preferNickname c) =
      label order preferNickname c := by
    rw [← label_without, without_displayLabel, label_without]
  rw [displayLabel_eq order preferNickname (displayLabel order preferNickname c), hlabel,
    without_displayLabel, ← displayLabel_eq]

/-- A contact goes without a label only if none of its details can label it, whatever the settings.
Otherwise it gets one label, in place of those it had; all else stays as it was, and labelling it
again changes nothing. -/
theorem isLabelled_displayLabel (order : NameOrder) (preferNickname : Bool) (c : Contact) :
    (label order preferNickname c = "" ↔ ∀ d ∈ c.details, ¬ CanLabel d) ∧
    (∀ order' preferNickname',
      label order' preferNickname' c = "" ↔ label order preferNickname c = "") ∧
    IsLabelled (label order preferNickname c) c (displayLabel order preferNickname c) ∧
    displayLabel order preferNickname (displayLabel order preferNickname c) =
      displayLabel order preferNickname c := by
  refine ⟨label_eq_empty_iff .., fun order' preferNickname' => ?_, isLabelled ..,
    displayLabel_displayLabel ..⟩
  rw [label_eq_empty_iff, label_eq_empty_iff]

end Computed

end ContactGraph
