import ContactGraph.Text.Blank
import Mathlib.Data.List.Basic

/-!
# Trimmed texts

Trimming keeps all that is no white space (`mem_trim_iff`), and a text without white space as it is
(`trim_eq_self`).
-/

namespace ContactGraph.Text

variable {c : Char} {cs : List Char}

theorem mem_dropBlank_iff (hc : isBlank c = false) : c ∈ dropBlank cs ↔ c ∈ cs := by
  refine ⟨fun h => List.dropWhile_subset _ h, fun h => ?_⟩
  rw [← List.takeWhile_append_dropWhile (p := isBlank) (l := cs), List.mem_append] at h
  refine h.resolve_left fun hblank => ?_
  rw [List.all_eq_true.mp List.all_takeWhile c hblank] at hc
  cases hc

theorem mem_trim_iff (hc : isBlank c = false) : c ∈ trim cs ↔ c ∈ cs := by
  rw [trim, List.mem_reverse, mem_dropBlank_iff hc, List.mem_reverse, mem_dropBlank_iff hc]

theorem dropBlank_eq_self (h : ∀ c ∈ cs, isBlank c = false) : dropBlank cs = cs := by
  cases cs with
  | nil => rfl
  | cons c cs => rw [dropBlank, List.dropWhile_cons_of_neg (by simp [h c List.mem_cons_self])]

theorem trim_eq_self (h : ∀ c ∈ cs, isBlank c = false) : trim cs = cs := by
  rw [trim, dropBlank_eq_self h, dropBlank_eq_self fun c hc => h c (List.mem_reverse.mp hc),
    List.reverse_reverse]

/-- Digits are no white space. -/
theorem isBlank_of_isDigit (h : c.isDigit = true) : isBlank c = false := by
  have hrange : 48 ≤ c.toNat ∧ c.toNat ≤ 57 := Char.isDigit_iff_toNat.mp h
  simp only [isBlank, Bool.or_eq_false_iff, Bool.and_eq_false_iff, decide_eq_false_iff_not]
  omega

end ContactGraph.Text
