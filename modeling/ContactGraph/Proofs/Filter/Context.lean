import ContactGraph.Proofs.Filter.Leaves
import ContactGraph.Proofs.Text.Capitalized
import ContactGraph.Result.Instance
import ContactGraph.Schema.Standard

/-!
# Filters on contexts

The context of a detail is shown as the capitalized label of its affiliation, and a filter on it
looks for labels with the lower case of the text it is given (`isTrue_contextMatch_iff`). What is
shown has not always the lower case of the label, so a filter for the context that was shown finds
the detail again for the labels that keep their lower case when they are capitalized, and for no
others (`isTrue_contextMatch_shown`).
-/

namespace ContactGraph

open Query Vocabulary

/-- Whether a contact has a detail over an affiliation with a label. -/
def Store.InContext (T : Store) (d : DetailDefinition) (c : Iri) (label : Node) : Prop :=
  ∃ a, T.Edge (.resource c) Nco.hasAffiliation a ∧ (∃ r, T.Path d.chain a r) ∧
    T.Edge a Rdf.label label

namespace Query

variable {s : Scope} {T : Store} {c : Iri} {d : DetailDefinition} {n : Nat}

/-- A filter on the context of a detail is the condition on it, whatever its flags. -/
theorem restriction_context (htype : d.name ≠ Names.type) (hd : s.schema.detail? d.name = some d)
    (hstored : d.computed = false) (hcontext : d.hasContext = true) (v : Value)
    (flags : MatchFlags) (n : Nat) :
    restriction s (.fieldIs d.name Names.context v flags) n =
      .ok (contextMatch d (some v) n) := by
  simp [restriction, Filter.fieldIs, detailMatch, definedMatch, accept, htype, hd, hstored,
    hcontext]

/-- The condition on a context is true when some label has the lower case that is asked for. -/
theorem isTrue_contextMatch_iff {v : Value} :
    T.IsTrue (Valuation.contact c) (contextMatch d (some v) n).1 ↔
      ∃ x, T.InContext d c x ∧ Text.lowercase x.str = Text.lowercase v.toText := by
  have hexpr : (contextMatch d (some v) n).1 = .holds (
      edge contactVar Nco.hasAffiliation (.numbered (n + 1)) ::
        ((walk (.numbered (n + 1)) d.chain (n + 1)).1.group ++ [
          edge (.numbered (n + 1)) Rdf.label (.numbered (n + 1 + d.chain.length + 1)),
          .filter (textExpr (.str (.var (.numbered (n + 1 + d.chain.length + 1)))) v.toText
            ⟨.exactly, false⟩)])) := by
    rw [← walk_snd (.numbered (n + 1)) d.chain (n + 1)]
    rfl
  have hafter : ∀ a, T.IsTrue ((Valuation.contact c).set (.numbered (n + 1)) a) (.holds (
      (walk (.numbered (n + 1)) d.chain (n + 1)).1.group ++ [
        edge (.numbered (n + 1)) Rdf.label (.numbered (n + 1 + d.chain.length + 1)),
        .filter (textExpr (.str (.var (.numbered (n + 1 + d.chain.length + 1)))) v.toText
          ⟨.exactly, false⟩)])) ↔
      ∃ r, T.Path d.chain a r ∧ ∃ x, T.Edge a Rdf.label x ∧
        Text.lowercase x.str = Text.lowercase v.toText := by
    intro a
    refine isTrue_holds_walk_append_iff (Valuation.set_self _ _ a) (fun k hk => ?_)
      fun γ r _ hbound hfree => ?_
    · rw [Valuation.set_of_ne _ a (by simp; omega), contact_numbered]
    · have haffiliation := hbound _ _ (Valuation.set_self (Valuation.contact c) _ a)
      rw [Store.isTrue_holds_edge_iff haffiliation (hfree _ (Nat.lt_succ_self _))]
      simp only [Store.isTrue_holds_filter_iff, Store.isTrue_textExpr (Valuation.set_self γ _ _)]
      rfl
  rw [hexpr, Store.isTrue_holds_edge_iff contact_contactVar (contact_numbered _)]
  simp only [hafter]
  constructor
  · rintro ⟨a, ha, r, hr, x, hx, hlower⟩
    exact ⟨x, ⟨a, ha, ⟨r, hr⟩, hx⟩, hlower⟩
  · rintro ⟨x, ⟨a, ha, ⟨r, hr⟩, hx⟩, hlower⟩
    exact ⟨a, ha, r, hr, x, hx, hlower⟩

/-- A detail is shown in a context, and the condition on that context is true when some label has
its lower case. It is the lower case of the label itself just when the label keeps it, and then the
condition finds the detail again. -/
theorem isTrue_contextMatch_shown {label : String} (hcontext : d.hasContext = true)
    (hlabel : label ≠ "") (shown : Detail) :
    ∃ tag, (Result.giveContext d label shown).context = some tag ∧
      (Text.lowercase tag = Text.lowercase label ↔ Text.IsCaseStable label) ∧
      ∀ (T : Store) (c : Iri) (n : Nat),
        (T.IsTrue (Valuation.contact c) (contextMatch d (some (.text tag)) n).1 ↔
          ∃ x, T.InContext d c x ∧ Text.lowercase x.str = Text.lowercase tag) ∧
        (Text.IsCaseStable label → T.InContext d c (.text label) →
          T.IsTrue (Valuation.contact c) (contextMatch d (some (.text tag)) n).1) := by
  have hstable := Text.lowercase_capitalize_iff label
  refine ⟨Text.capitalize label, ?_, hstable, fun T c n => ⟨isTrue_contextMatch_iff, ?_⟩⟩
  · rw [Result.giveContext, hcontext, if_pos (by simpa using hlabel)]
  · intro hlabelStable hin
    exact isTrue_contextMatch_iff.mpr ⟨.text label, hin, (hstable.mpr hlabelStable).symm⟩

/-- Amy, who can be reached over an affiliation with a label. -/
def labelledStore (label : String) : Store :=
  { triples := [
      ⟨.resource "amy", Nco.hasAffiliation, .resource "affiliation", none⟩,
      ⟨.resource "affiliation", Nco.hasPhoneNumber, .resource "tel:1", none⟩,
      ⟨.resource "affiliation", Rdf.label, .text label, none⟩] }

theorem inContext_labelledStore {label : String} {x : Node} :
    (labelledStore label).InContext Standard.phoneNumber "amy" x ↔ x = .text label := by
  have hnumber : Nco.hasAffiliation ≠ Nco.hasPhoneNumber := by decide
  have hlabel : Nco.hasAffiliation ≠ Rdf.label := by decide
  have hother : Nco.hasPhoneNumber ≠ Rdf.label := by decide
  simp [Store.InContext, Store.Path, Store.Step, Store.Edge, labelledStore, Standard.phoneNumber,
    Standard.identifying, hnumber, hnumber.symm, hlabel.symm, hother.symm, eq_comm]

/-- A number shown at `Home` is found by a filter for `Home`. -/
theorem isTrue_contextMatch_home :
    ∃ tag e m, (Result.giveContext Standard.phoneNumber "home" default).context = some tag ∧
      restriction ⟨Standard.person, {}, {}⟩
        (.fieldIs Names.phoneNumber Names.context (.text tag) {}) 0 = .ok (e, m) ∧
      (labelledStore "home").IsTrue (Valuation.contact "amy") e := by
  obtain ⟨tag, htag, -, hfinds⟩ :=
    isTrue_contextMatch_shown (d := Standard.phoneNumber) rfl (show "home" ≠ "" by decide) default
  have hstable : Text.IsCaseStable "home" := by
    refine ⟨?_, Text.not_hasFinalSigma_of_tail (by decide)⟩
    rintro c ⟨⟩
    decide
  exact ⟨tag, _, _, htag,
    restriction_context (d := Standard.phoneNumber) (by decide) rfl rfl rfl _ _ _,
    (hfinds _ _ _).2 hstable (inContext_labelledStore.mpr rfl)⟩

/-- A label that ends in a capital sigma is shown with a small one that is no final sigma, and a
filter for what is shown does not find the number. -/
theorem not_isTrue_contextMatch_oikos :
    ∃ tag e m, (Result.giveContext Standard.phoneNumber "ΟΙΚΟΣ" default).context = some tag ∧
      Text.lowercase tag ≠ Text.lowercase "ΟΙΚΟΣ" ∧
      (labelledStore "ΟΙΚΟΣ").InContext Standard.phoneNumber "amy" (.text "ΟΙΚΟΣ") ∧
      restriction ⟨Standard.person, {}, {}⟩
        (.fieldIs Names.phoneNumber Names.context (.text tag) {}) 0 = .ok (e, m) ∧
      ¬ (labelledStore "ΟΙΚΟΣ").IsTrue (Valuation.contact "amy") e := by
  have hlower : Text.lowercase "Οικοσ" ≠ Text.lowercase "ΟΙΚΟΣ" := by decide +kernel
  refine ⟨"Οικοσ", _, _, by decide +kernel, hlower, inContext_labelledStore.mpr rfl,
    restriction_context (d := Standard.phoneNumber) (by decide) rfl rfl rfl _ _ _, ?_⟩
  intro htrue
  obtain ⟨x, hx, hfound⟩ := isTrue_contextMatch_iff.mp htrue
  rw [inContext_labelledStore.mp hx] at hfound
  exact hlower hfound.symm

end Query

end ContactGraph
