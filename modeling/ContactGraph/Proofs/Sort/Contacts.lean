import ContactGraph.Proofs.Sort.Keys
import ContactGraph.Sort.Contacts

/-!
# Orders of contacts

Values are compared as integers, doubles, points in time or texts (`Value.Kind`) when they are of
one kind, and by their texts when they are not. Turning the contacts round always turns the order
round (`Contact.order_swap`), but going on from one contact to the next it may lead back when
numbers stand beside texts. Contacts whose values under each sort order are of one kind
(`SortOrder.AreAlike`) are in a total preorder (`Contact.preorderOn_order`). Then it makes no
difference whether lists of contacts are sorted apart and merged or sorted as one
(`Sort.mergeContacts_contacts`).
-/

namespace ContactGraph

open Std

/-! ## Values -/

namespace Value

/-- What values are compared as. -/
inductive Kind where
  /-- Whole numbers. -/
  | integer
  /-- Double precision numbers. -/
  | double
  /-- Points in time. -/
  | instant
  /-- Texts. Truth values compare as their texts do. -/
  | text
  deriving DecidableEq

/-- What a value is compared as with values of its kind. -/
def kind : Value → Kind
  | .integer _ => .integer
  | .double _ => .double
  | .instant _ => .instant
  | .text _ => .text
  | .list _ => .text
  | .bool _ => .text
  | .url _ => .text

/-- Values of one type are of one kind. -/
theorem kind_eq_of_type_eq {v w : Value} (h : v.type = w.type) : v.kind = w.kind := by
  cases v <;> cases w <;> first | rfl | cases h

instance (caseSensitive : Bool) : TransCmp (compareTexts caseSensitive) := by
  unfold compareTexts
  cases caseSensitive with
  | true => exact inferInstanceAs (TransCmp (compare : String → String → Ordering))
  | false => exact transCmp_on Text.lowercase compare

theorem compare_bool_eq (caseSensitive a b : Bool) :
    compare a b = compareTexts caseSensitive (boolText a) (boolText b) := by
  cases caseSensitive <;> cases a <;> cases b <;> decide +kernel

/-- Values of different kinds compare by their texts, and so do texts. -/
theorem order_eq_compareTexts {caseSensitive : Bool} {v w : Value}
    (h : v.kind = w.kind → v.kind = .text) :
    v.order caseSensitive w = compareTexts caseSensitive v.toText w.toText := by
  cases v with
  | integer _ =>
    cases w with
    | integer _ => cases h rfl
    | _ => rfl
  | double _ =>
    cases w with
    | double _ => cases h rfl
    | _ => rfl
  | instant _ =>
    cases w with
    | instant _ => cases h rfl
    | _ => rfl
  | bool a =>
    cases w with
    | bool b => exact compare_bool_eq caseSensitive a b
    | _ => rfl
  | text _ => rfl
  | list _ => rfl
  | url _ => rfl

theorem order_swap (caseSensitive : Bool) (v w : Value) :
    w.order caseSensitive v = (v.order caseSensitive w).swap := by
  by_cases h : v.kind = w.kind → v.kind = .text
  · rw [order_eq_compareTexts h, order_eq_compareTexts fun heq => heq.trans (h heq.symm)]
    exact OrientedCmp.eq_swap
  · obtain ⟨heq, hne⟩ := Classical.not_imp.mp h
    cases v with
    | integer i =>
      cases w with
      | integer j => exact @OrientedCmp.eq_swap _ compare _ j i
      | _ => cases heq
    | double x =>
      cases w with
      | double y => exact @OrientedCmp.eq_swap _ Double.order _ y x
      | _ => cases heq
    | instant i =>
      cases w with
      | instant j => exact @OrientedCmp.eq_swap _ Instant.order _ j i
      | _ => cases heq
    | _ => exact absurd rfl hne

/-- Values of one kind are in a preorder. -/
theorem preorderOn_order (caseSensitive : Bool) (k : Kind) :
    PreorderOn (order caseSensitive) fun v => v.kind = k where
  swap := order_swap caseSensitive
  trans {a b c} ha hb hc hab hbc := by
    by_cases hk : k = .text
    · subst hk
      rw [order_eq_compareTexts fun _ => ‹_›] at hab hbc ⊢
      exact TransCmp.isLE_trans hab hbc
    · cases a with
      | integer x =>
        cases b with
        | integer y =>
          cases c with
          | integer z => exact @TransCmp.isLE_trans _ compare _ x y z hab hbc
          | _ => cases hc.trans ha.symm
        | _ => cases hb.trans ha.symm
      | double x =>
        cases b with
        | double y =>
          cases c with
          | double z => exact @TransCmp.isLE_trans _ Double.order _ x y z hab hbc
          | _ => cases hc.trans ha.symm
        | _ => cases hb.trans ha.symm
      | instant x =>
        cases b with
        | instant y =>
          cases c with
          | instant z => exact @TransCmp.isLE_trans _ Instant.order _ x y z hab hbc
          | _ => cases hc.trans ha.symm
        | _ => cases hb.trans ha.symm
      | _ => exact absurd ha.symm hk

end Value

/-! ## Contacts -/

namespace SortOrder

/-- Keys whose values are of one kind are in a preorder, with those without a value at one end. -/
theorem preorderOn_compareKeys (o : SortOrder) (k : Value.Kind) :
    PreorderOn o.compareKeys fun key => ∀ v ∈ key, v.kind = k where
  swap x y := by
    cases x with
    | none =>
      cases y with
      | none => rfl
      | some w => rfl
    | some v =>
      cases y with
      | none => exact Ordering.swap_swap.symm
      | some w => exact ((Value.preorderOn_order o.caseSensitive k).apply o.direction).swap v w
  trans {x y z} hx hy hz hxy hyz := by
    cases x with
    | none =>
      cases z with
      | none => rfl
      | some w =>
        cases y with
        | none => exact hyz
        | some v => exact hxy
    | some u =>
      cases y with
      | none =>
        cases z with
        | none => exact hxy
        | some w =>
          -- a blank cannot be both in front of a value and behind one
          revert hxy hyz
          unfold compareKeys
          cases o.blanks <;> intro hxy hyz
          · cases hxy
          · cases hyz
      | some v =>
        cases z with
        | none => exact hyz
        | some w =>
          exact ((Value.preorderOn_order o.caseSensitive k).apply o.direction).trans
            (hx u rfl) (hy v rfl) (hz w rfl) hxy hyz

/-- The values of contacts under a sort order are of one kind. -/
def AreAlike (o : SortOrder) (cs : List Contact) : Prop :=
  ∃ k, ∀ c ∈ cs, ∀ v ∈ o.key? c, v.kind = k

end SortOrder

namespace Contact

theorem order_swap (orders : List SortOrder) (a b : Contact) :
    Contact.order orders b a = (Contact.order orders a b).swap := by
  induction orders with
  | nil => rfl
  | cons o os ih =>
    rw [Contact.order, Contact.order, ih, Ordering.swap_then, SortOrder.compareBy,
      (o.preorderOn_compareKeys .text).swap]
    rfl

/-- Contacts whose values under each sort order are of one kind are in a preorder. -/
theorem preorderOn_order {orders : List SortOrder} {cs : List Contact}
    (h : ∀ o ∈ orders, o.AreAlike cs) : PreorderOn (Contact.order orders) (· ∈ cs) := by
  induction orders with
  | nil => exact ⟨fun _ _ => rfl, fun _ _ _ _ _ => rfl⟩
  | cons o os ih =>
    rw [List.forall_mem_cons] at h
    obtain ⟨⟨k, hk⟩, hos⟩ := h
    exact (((o.preorderOn_compareKeys k).on o.key?).mono hk).andThen (ih hos)

/-- Comparing contacts by sort orders is reflexive, and turning two contacts round turns their order
round. It goes on from one contact to the next when the values under each sort order are of one
kind. -/
theorem order_isPreorder (orders : List SortOrder) :
    (∀ a, Contact.order orders a a = .eq) ∧
    (∀ a b, Contact.order orders b a = (Contact.order orders a b).swap) ∧
    ∀ a b c, (∀ o ∈ orders, o.AreAlike [a, b, c]) → Contact.order orders a b ≠ .gt →
      Contact.order orders b c ≠ .gt → Contact.order orders a c ≠ .gt := by
  refine ⟨fun a => ?_, order_swap orders, fun a b c h hab hbc => ?_⟩
  · have hswap := order_swap orders a a
    cases horder : Contact.order orders a a with
    | eq => rfl
    | lt => simp [horder] at hswap
    | gt => simp [horder] at hswap
  · have hab := Ordering.isLE_iff_ne_gt.mpr hab
    have hbc := Ordering.isLE_iff_ne_gt.mpr hbc
    have hac := (preorderOn_order h).trans (by simp) (by simp) (by simp) hab hbc
    exact Ordering.isLE_iff_ne_gt.mp hac

/-- A contact with nothing but a score, if any. -/
def scored (id : LocalId) (points : Option Value) : Contact :=
  { id := ⟨.person, id⟩
    details := points.toList.map fun v =>
      { name := "Score", values := NameMap.ofList [("Points", v)] } }

/-- By points. -/
def byPoints : SortOrder :=
  { detail := "Score", field := "Points" }

/-- Whole numbers go by size and not by their texts, and behind them the contact without a score. -/
theorem order_scored_numbers :
    let nine := scored 1 (some (.integer 9))
    let hundred := scored 2 (some (.integer 100))
    let blank := scored 3 none
    (∀ o ∈ [byPoints], o.AreAlike [nine, hundred, blank]) ∧
      Contact.order [byPoints] nine hundred ≠ .gt ∧ Contact.order [byPoints] hundred blank ≠ .gt ∧
      Contact.order [byPoints] nine blank ≠ .gt := by
  intro nine hundred blank
  have halike : ∀ o ∈ [byPoints], o.AreAlike [nine, hundred, blank] :=
    List.forall_mem_singleton.mpr ⟨.integer, by decide +kernel⟩
  have hfront : Contact.order [byPoints] nine hundred ≠ .gt := by decide +kernel
  have hback : Contact.order [byPoints] hundred blank ≠ .gt := by decide +kernel
  obtain ⟨-, -, htrans⟩ := order_isPreorder [byPoints]
  exact ⟨halike, hfront, hback, htrans nine hundred blank halike hfront hback⟩

/-- A text beside numbers leads back : 9 comes before 10 and 10 before `10th`, which comes before 9.
-/
theorem order_scored_cycle :
    let nine := scored 1 (some (.integer 9))
    let ten := scored 2 (some (.integer 10))
    let tenth := scored 3 (some (.text "10th"))
    Contact.order [byPoints] nine ten ≠ .gt ∧ Contact.order [byPoints] ten tenth ≠ .gt ∧
      Contact.order [byPoints] nine tenth = .gt := by
  decide +kernel

end Contact

end ContactGraph

/-! ## Sorting and merging -/

namespace ContactGraph.Sort

variable {orders : List SortOrder} {left right : List Contact}

/-- Without sort orders, merging puts one list behind the other. -/
theorem mergeContacts_nil (left right : List Contact) :
    mergeContacts [] left right = left ++ right := by
  have h : (left ++ []).merge right (fun _ _ => true) =
      left ++ List.merge [] right fun _ _ => true :=
    append_merge fun _ _ _ _ => rfl
  rwa [List.append_nil, List.nil_merge] at h

theorem mergeContacts_eq_merge (orders : List SortOrder) (left right : List Contact) :
    mergeContacts orders left right =
      left.merge right fun a b => !(Contact.order orders b a == .lt) := by
  have hle : (fun a b => Contact.order orders a b != .gt) =
      fun a b => !(Contact.order orders b a == .lt) := by
    funext a b
    rw [Contact.order_swap orders a b]
    cases Contact.order orders a b <;> rfl
  rw [mergeContacts, hle]

/-- Contacts are tied when they compare equal. -/
theorem tied_order (orders : List SortOrder) (a : Contact) :
    tied (fun a b => Contact.order orders a b == .lt) a =
      fun b => decide (Contact.order orders a b = .eq) := by
  funext b
  rw [tied, Contact.order_swap orders a b]
  cases Contact.order orders a b <;> rfl

/-- Contacts whose values under each sort order are of one type are alike. -/
theorem areAlike_of_type {o : SortOrder} {cs : List Contact}
    (h : ∃ t, ∀ c ∈ cs, ∀ v ∈ o.key? c, v.type = t) : o.AreAlike cs := by
  obtain ⟨t, ht⟩ := h
  by_cases hv : ∃ c ∈ cs, ∃ v, v ∈ o.key? c
  · obtain ⟨c, hc, v, hv⟩ := hv
    exact ⟨v.kind, fun d hd w hw =>
      Value.kind_eq_of_type_eq ((ht d hd w hw).trans (ht c hc v hv).symm)⟩
  · exact ⟨.text, fun d hd w hw => absurd ⟨d, hd, w, hw⟩ hv⟩

/-- Contacts sorted apart and merged are the contacts sorted as one. Nothing is lost and nothing
doubled, the contacts are in order, those that compare equal keep theirs with the left ones first,
and without sort orders all stay where they are. -/
theorem mergeContacts_contacts
    (h : ∀ o ∈ orders, ∃ t, ∀ c ∈ left ++ right, ∀ v ∈ o.key? c, v.type = t) :
    mergeContacts orders (contacts orders left) (contacts orders right) =
      contacts orders (left ++ right) ∧
    (contacts orders (left ++ right)).Perm (left ++ right) ∧
    (contacts orders (left ++ right)).Pairwise (fun a b => Contact.order orders a b ≠ .gt) ∧
    (∀ c ∈ left ++ right,
      (contacts orders (left ++ right)).filter (Contact.order orders c · = .eq) =
        left.filter (Contact.order orders c · = .eq) ++
          right.filter (Contact.order orders c · = .eq)) ∧
    (orders = [] → contacts orders (left ++ right) = left ++ right) := by
  have hpre := Contact.preorderOn_order fun o ho => areAlike_of_type (h o ho)
  have hweak := hpre.weakOrderOn
  have hmem : ∀ c ∈ left ++ right, c ∈ left ++ right := fun _ hc => hc
  refine ⟨?_, stable_perm, ?_, fun c hc => ?_, ?_⟩
  · rw [mergeContacts_eq_merge]
    exact stable_append_stable hweak (fun c hc => List.mem_append_left _ hc)
      fun c hc => List.mem_append_right _ hc
  · refine (pairwise_stable hweak hmem).imp fun {a b} hab => ?_
    exact Ordering.isLE_iff_ne_gt.mp (hpre.isLE_iff.mp hab)
  · have htied := filter_tied_stable hweak hc hmem
    rw [tied_order] at htied
    rw [contacts, stableBy, htied, List.filter_append]
  · rintro rfl
    exact stable_eq_self hweak hmem (List.pairwise_of_forall fun _ _ => rfl)

/-- Equal scores keep their order, and the contact without a score goes last. -/
theorem mergeContacts_contacts_scored :
    let left := [
      Contact.scored 1 (some (.integer 20)), .scored 2 none, .scored 3 (some (.integer 9))]
    let right := [Contact.scored 4 (some (.integer 9)), .scored 5 (some (.integer 20))]
    (mergeContacts [Contact.byPoints] (contacts [Contact.byPoints] left)
      (contacts [Contact.byPoints] right)).map (·.localId) = [3, 4, 1, 5, 2] := by
  intro left right
  have hmerge : mergeContacts [Contact.byPoints] (contacts [Contact.byPoints] left)
      (contacts [Contact.byPoints] right) = contacts [Contact.byPoints] (left ++ right) :=
    (mergeContacts_contacts (List.forall_mem_singleton.mpr ⟨.integer, by decide +kernel⟩)).1
  rw [hmerge]
  decide +kernel

end ContactGraph.Sort
