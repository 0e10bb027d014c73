import ContactGraph.Proofs.Text.Letters
import Mathlib.Data.List.Basic

/-!
# The lower case of a capitalized text

A text is capitalized letter by letter, while its lower case looks at the words : a capital sigma
that ends a word becomes a final sigma. Only the first letter of a capitalized text can be a capital
sigma, and it ends no word, so the lower case of the capitalized text is taken letter by letter too
(`lowercaseAfter_capitalize`). The two agree on a text just when its first letter has a capital of
its own and no capital sigma ends a word of it (`lowercase_capitalize_iff`).
-/

namespace ContactGraph.Text

variable {before cs : List Char} {c : Char}

/-! ## Words and letters -/

/-- Whether some capital sigma of `cs` ends a word, where `before` stands in front of `cs`, the
nearest letter first. -/
def HasFinalSigma (before cs : List Char) : Prop :=
  ∃ front back, cs = front ++ 'Σ' :: back ∧
    leadsCased (front.reverse ++ before) = true ∧ leadsCased back = false

theorem lowerChar_sigma : lowerChar 'Σ' = ['σ'] := by
  decide

theorem lowercaseAfter_cons (hc : c = 'Σ' → leadsCased before = true → leadsCased cs = true) :
    lowercaseAfter before (c :: cs) = lowerChar c ++ lowercaseAfter (c :: before) cs := by
  rw [lowercaseAfter]
  by_cases hsigma : c = 'Σ'
  · have hnot : ¬ (leadsCased before && !leadsCased cs) = true := by
      simpa using hc hsigma
    rw [if_pos hsigma, if_neg hnot, hsigma, lowerChar_sigma]
  · rw [if_neg hsigma]

theorem hasFinalSigma_cons :
    HasFinalSigma before (c :: cs) ↔
      (c = 'Σ' ∧ leadsCased before = true ∧ leadsCased cs = false) ∨
        HasFinalSigma (c :: before) cs := by
  constructor
  · rintro ⟨front, back, heq, hbefore, hback⟩
    cases front with
    | nil =>
      obtain ⟨rfl, rfl⟩ := List.cons.inj heq
      exact .inl ⟨rfl, hbefore, hback⟩
    | cons d front =>
      obtain ⟨rfl, rfl⟩ := List.cons.inj heq
      refine .inr ⟨front, back, rfl, ?_, hback⟩
      simpa using hbefore
  · rintro (⟨rfl, hbefore, hback⟩ | ⟨front, back, rfl, hbefore, hback⟩)
    · exact ⟨[], cs, rfl, hbefore, hback⟩
    · exact ⟨c :: front, back, rfl, by simpa using hbefore, hback⟩

/-- Both ways a letter is mapped to as many letters. -/
theorem length_lowercaseAfter :
    (lowercaseAfter before cs).length = (cs.flatMap lowerChar).length := by
  induction cs generalizing before with
  | nil => rfl
  | cons c cs ih =>
    rw [lowercaseAfter, List.flatMap_cons, List.length_append, List.length_append, ih]
    congr 1
    by_cases hsigma : c = 'Σ'
    · rw [if_pos hsigma, hsigma, lowerChar_sigma]
      split <;> rfl
    · rw [if_neg hsigma]

/-- Only the empty text has nothing in lower case. -/
theorem lowercase_ne_empty {s : String} (h : s ≠ "") : lowercase s ≠ "" := by
  intro hlower
  have hlength : (lowercase s).toList.length = (s.toList.flatMap lowerChar).length := by
    rw [lowercase, String.toList_ofList, length_lowercaseAfter]
  have hle := length_le_length_flatMap_lowerChar s.toList
  rw [← hlength, hlower] at hle
  exact h (String.toList_eq_nil_iff.mp (List.length_eq_zero_iff.mp (Nat.le_zero.mp hle)))

/-- Lower case is taken letter by letter just where no capital sigma ends a word. -/
theorem lowercaseAfter_eq_iff :
    lowercaseAfter before cs = cs.flatMap lowerChar ↔ ¬ HasFinalSigma before cs := by
  induction cs generalizing before with
  | nil => simp [lowercaseAfter, HasFinalSigma]
  | cons c cs ih =>
    rw [hasFinalSigma_cons, not_or, ← ih, List.flatMap_cons]
    by_cases hfinal : c = 'Σ' ∧ leadsCased before = true ∧ leadsCased cs = false
    · obtain ⟨rfl, hbefore, hback⟩ := hfinal
      refine iff_of_false (fun h => ?_) fun h => h.1 ⟨rfl, hbefore, hback⟩
      rw [lowercaseAfter, hbefore, hback, lowerChar_sigma] at h
      exact absurd (List.cons.inj h).1 (by decide)
    · have hcased : c = 'Σ' → leadsCased before = true → leadsCased cs = true :=
        fun hsigma hbefore => Bool.of_not_eq_false fun hback => hfinal ⟨hsigma, hbefore, hback⟩
      rw [lowercaseAfter_cons hcased, List.append_cancel_left_eq]
      exact (and_iff_right hfinal).symm

/-! ## Capitalized texts -/

theorem not_hasFinalSigma_of_tail (h : 'Σ' ∉ cs.tail) : ¬ HasFinalSigma [] cs := by
  rintro ⟨front, back, rfl, hbefore, -⟩
  cases front with
  | nil => cases hbefore
  | cons d front => exact h (List.mem_append_right front List.mem_cons_self)

theorem sigma_notMem_lowerChar : 'Σ' ∉ lowerChar c := by
  intro h
  have hkept := lowerChar_of_mem h
  rw [lowerChar_sigma] at hkept
  exact absurd (List.cons.inj hkept).1 (by decide)

theorem sigma_notMem_tail_upperChar : 'Σ' ∉ (upperChar c).tail := by
  cases hspecial : upperSpecials.lookup c.toNat with
  | some codes =>
    have hcodes := List.all_eq_true.mp tablesFit.upperSpecial _ (mem_of_lookup_eq_some hspecial)
    rw [Bool.and_eq_true, Bool.not_eq_true'] at hcodes
    rw [upperChar, mapCase_of_lookup hspecial, ← List.map_tail, ← List.contains_iff_mem]
    exact Bool.eq_false_iff.mp hcodes.2
  | none =>
    rcases mapCase_cases upperRanges hspecial with hself | ⟨r, -, -, hmapped⟩
    · rw [upperChar, hself]
      exact List.not_mem_nil
    · rw [upperChar, hmapped]
      exact List.not_mem_nil

theorem sigma_notMem_tail_capitalize :
    'Σ' ∉ (upperChar c ++ cs.flatMap lowerChar).tail := by
  have hrest : 'Σ' ∉ cs.flatMap lowerChar := by
    rw [List.mem_flatMap]
    rintro ⟨d, -, hd⟩
    exact sigma_notMem_lowerChar hd
  rw [List.tail_append]
  split
  · exact fun h => hrest (List.mem_of_mem_tail h)
  · rw [List.mem_append, not_or]
    exact ⟨sigma_notMem_tail_upperChar, hrest⟩

theorem flatMap_lowerChar_flatMap_lowerChar :
    (cs.flatMap lowerChar).flatMap lowerChar = cs.flatMap lowerChar := by
  rw [List.flatMap_assoc]
  refine List.flatMap_congr fun c _ => ?_
  rw [List.flatMap_congr fun d hd => lowerChar_of_mem hd]
  exact List.flatMap_singleton' _

/-- The lower case of a capitalized text is taken letter by letter. -/
theorem lowercaseAfter_capitalize :
    lowercaseAfter [] (upperChar c ++ cs.flatMap lowerChar) =
      (upperChar c).flatMap lowerChar ++ cs.flatMap lowerChar := by
  rw [lowercaseAfter_eq_iff.mpr (not_hasFinalSigma_of_tail sigma_notMem_tail_capitalize),
    List.flatMap_append, flatMap_lowerChar_flatMap_lowerChar]

/-- Whether a text keeps its lower case when it is capitalized. -/
structure IsCaseStable (s : String) : Prop where
  /-- The capital of the first letter is a single one and belongs to no other letter. -/
  first : ∀ c ∈ s.toList.head?, hasOwnCapital c = true
  /-- No capital sigma ends a word. -/
  sigma : ¬ HasFinalSigma [] s.toList

/-- A capitalized text has the lower case of the text just when the capital of the first letter is
a single one and its own, and no capital sigma ends a word. -/
theorem lowercase_capitalize_iff (s : String) :
    lowercase (capitalize s) = lowercase s ↔ IsCaseStable s := by
  rw [lowercase, lowercase, capitalize, String.ofList_inj]
  cases hs : s.toList with
  | nil =>
    refine iff_of_true rfl ⟨?_, ?_⟩
    · rw [hs]
      rintro c ⟨⟩
    · rw [hs]
      rintro ⟨front, back, heq, -⟩
      cases front <;> cases heq
  | cons c cs =>
    have hfirst : lowercaseAfter [] (c :: cs) = lowerChar c ++ lowercaseAfter [c] cs :=
      lowercaseAfter_cons fun _ h => by cases h
    have hsigma : HasFinalSigma [] s.toList ↔ HasFinalSigma [c] cs := by
      rw [hs, hasFinalSigma_cons, or_iff_right fun h => Bool.false_ne_true h.2.1]
    rw [String.toList_ofList, lowercaseAfter_capitalize, hfirst]
    constructor
    · intro h
      obtain ⟨hupper, hrest⟩ := List.append_inj' h length_lowercaseAfter.symm
      refine ⟨?_, fun hfinal => ?_⟩
      · rw [hs]
        rintro d ⟨⟩
        exact lower_upper_iff.mp hupper
      · exact lowercaseAfter_eq_iff.mp hrest.symm (hsigma.mp hfinal)
    · intro h
      rw [lower_upper_iff.mpr (h.first c (by rw [hs]; rfl)),
        lowercaseAfter_eq_iff.mpr (mt hsigma.mpr h.sigma)]

end ContactGraph.Text
