import ContactGraph.Number.Digits

/-!
# Written numbers

The digits that a number is written with are read as that number (`natural?_natDigits`), also by the
readers that take a sign and mind a bound (`unsigned?_natDigits`, `signed?_intDigits`), and when
zeros pad them (`natural?_padded`). A text with anything in it but digits and a sign is no number.
-/

namespace ContactGraph.Number

variable {n bound width : Nat} {c : Char} {cs : List Char}

theorem isDigit_of_mem_natDigits (h : c ∈ natDigits n) : c.isDigit = true :=
  Nat.isDigit_of_mem_toDigits (by decide) (by decide) h

theorem natDigits_ne_nil (n : Nat) : natDigits n ≠ [] :=
  Nat.toDigits_ne_nil

/-- Digits are read one behind the other. -/
theorem readDigits_eq_some (h : ∀ c ∈ cs, c.isDigit = true) (n : Nat) :
    readDigits n cs = some (Nat.ofDigitChars 10 cs n) := by
  induction cs generalizing n with
  | nil => rw [readDigits, Nat.ofDigitChars_nil]
  | cons c cs ih =>
    rw [List.forall_mem_cons] at h
    rw [readDigits, if_pos h.1, ih h.2, Nat.ofDigitChars_cons]

theorem natural?_eq_some (hne : cs ≠ []) (h : ∀ c ∈ cs, c.isDigit = true) :
    natural? cs = some (Nat.ofDigitChars 10 cs 0) := by
  obtain ⟨c, cs, rfl⟩ := List.exists_cons_of_ne_nil hne
  exact readDigits_eq_some h 0

theorem natural?_natDigits (n : Nat) : natural? (natDigits n) = some n := by
  rw [natural?_eq_some (natDigits_ne_nil n) fun c => isDigit_of_mem_natDigits, natDigits,
    Nat.ofDigitChars_ten_toDigits]

/-- A number below the bound is read back. -/
theorem unsigned?_natDigits (h : n < bound) : unsigned? bound (natDigits n) = some n := by
  have hsign : (natDigits n).head? ≠ some '+' := by
    intro hhead
    have hdigit := isDigit_of_mem_natDigits (List.mem_of_mem_head? hhead)
    exact absurd hdigit (by decide)
  rw [unsigned?, if_neg hsign, natural?_natDigits, Option.filter_some, if_pos (decide_eq_true h)]

theorem intDigits_natCast (n : Nat) : intDigits n = natDigits n := by
  rw [intDigits, if_neg (Int.not_lt.mpr (Int.natCast_nonneg n)), Int.natAbs_natCast]

/-- The text of a number of 64 bits is read back. -/
theorem signed?_intDigits (i : Int64) : signed? (intDigits i.toInt) = some i := by
  have hlow := i.le_toInt
  have hhigh := i.toInt_lt
  have hpow : pow2 63 = 2 ^ 63 := rfl
  rw [intDigits]
  split
  · rename_i hneg
    have hbound : i.toInt.natAbs ≤ pow2 63 := by omega
    have hvalue : -(i.toInt.natAbs : Int) = i.toInt := by omega
    rw [signed?, natural?_natDigits, Option.filter_some, if_pos (decide_eq_true hbound)]
    show some (Int64.ofInt (-(i.toInt.natAbs : Int))) = some i
    rw [hvalue, Int64.ofInt_toInt]
  · rename_i hpos
    have hbound : i.toInt.natAbs < pow2 63 := by omega
    have hvalue : (i.toInt.natAbs : Int) = i.toInt := by omega
    have hsign : ∀ ds, natDigits i.toInt.natAbs ≠ '-' :: ds := by
      intro ds heq
      have hdigit := isDigit_of_mem_natDigits (heq ▸ List.mem_cons_self)
      exact absurd hdigit (by decide)
    rw [signed?.eq_2 _ hsign, unsigned?_natDigits hbound]
    show some (Int64.ofInt (i.toInt.natAbs : Int)) = some i
    rw [hvalue, Int64.ofInt_toInt]

/-! ## Padded numbers -/

theorem isDigit_of_mem_padded (h : c ∈ padded width n) : c.isDigit = true := by
  rw [padded, List.mem_append] at h
  rcases h with h | h
  · rw [List.eq_of_mem_replicate h]
    decide
  · exact isDigit_of_mem_natDigits h

/-- A number that fits is padded to the width. -/
theorem length_padded (hwidth : 0 < width) (h : n < pow10 width) :
    (padded width n).length = width := by
  have hfits : (natDigits n).length ≤ width :=
    (Nat.length_toDigits_le_iff (by decide) hwidth).mpr h
  rw [padded, List.length_append, List.length_replicate]
  omega

theorem natural?_padded (width n : Nat) : natural? (padded width n) = some n := by
  have hne : padded width n ≠ [] := List.append_ne_nil_of_right_ne_nil _ (natDigits_ne_nil n)
  rw [natural?_eq_some hne fun c => isDigit_of_mem_padded, padded, Nat.ofDigitChars_append,
    Nat.ofDigitChars_replicate_zero, Nat.mul_zero, natDigits, Nat.ofDigitChars_ten_toDigits]

/-! ## Texts that are no numbers -/

theorem readDigits_eq_none (h : c ∈ cs) (hc : c.isDigit = false) (n : Nat) :
    readDigits n cs = none := by
  induction cs generalizing n with
  | nil => exact absurd h List.not_mem_nil
  | cons d cs ih =>
    rw [readDigits]
    split
    · rename_i hd
      rcases List.mem_cons.mp h with rfl | h
      · rw [hd] at hc
        cases hc
      · exact ih h _
    · rfl

/-- What has something else than digits in it is no number. -/
theorem natural?_eq_none (h : c ∈ cs) (hc : c.isDigit = false) : natural? cs = none := by
  cases cs with
  | nil => rfl
  | cons d cs => exact readDigits_eq_none h hc 0

theorem unsigned?_eq_none (h : c ∈ cs) (hc : c.isDigit = false) (hplus : c ≠ '+') (bound : Nat) :
    unsigned? bound cs = none := by
  have hrest : c ∈ if cs.head? = some '+' then cs.tail else cs := by
    split
    · cases cs with
      | nil => exact h
      | cons d cs =>
        rename_i hhead
        obtain rfl : d = '+' := by simpa using hhead
        exact (List.mem_cons.mp h).resolve_left hplus
    · exact h
  rw [unsigned?, natural?_eq_none hrest hc, Option.filter_none]

theorem signed?_eq_none (h : c ∈ cs) (hc : c.isDigit = false) (hplus : c ≠ '+') (hminus : c ≠ '-') :
    signed? cs = none := by
  unfold signed?
  split
  · rename_i ds
    have hds : c ∈ ds := (List.mem_cons.mp h).resolve_left hminus
    rw [natural?_eq_none hds hc]
    rfl
  · rw [unsigned?_eq_none h hc hplus]
    rfl

end ContactGraph.Number
