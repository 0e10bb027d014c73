import ContactGraph.Number.Double
import Mathlib.Order.Monotone.Basic
import Mathlib.Tactic.Ring

/-!
# Integers as doubles

A double has room for 53 binary digits. `nearest` is what is left of an integer when it becomes a
double : the integer itself up to `2 ^ 53` (`nearest_eq_self`), and beyond that the nearest one with
53 digits and zeros behind them, so that neighbours can become the same. Integers never change sides
(`nearest_mono`), and doubles that integers become are ordered as what is left of these
(`order_ofInt`). The bits of a positive double are a number that grows with the double
(`strictMono_value`), which is why comparing bits comes to comparing numbers.
-/

namespace ContactGraph.Double

open Number

variable {n m : Nat} {a b i : Int}

/-! ## Rounding -/

theorem pow2_eq (n : Nat) : pow2 n = 2 ^ n :=
  rfl

/-- A fraction is rounded down or up. -/
theorem roundEven_bounds (num den : Nat) :
    num / den ≤ roundEven num den ∧ roundEven num den ≤ num / den + 1 := by
  unfold roundEven
  dsimp only
  split_ifs <;> omega

theorem roundEven_mul (n : Nat) {den : Nat} (h : 0 < den) : roundEven (n * den) den = n := by
  unfold roundEven
  rw [Nat.mul_mod_left, Nat.mul_div_cancel n h]
  simp [h]

theorem roundEven_one (n : Nat) : roundEven n 1 = n := by
  simpa using roundEven_mul n Nat.one_pos

/-- The whole number nearest to a fraction is at most half away. -/
theorem roundEven_near {den : Nat} (h : 0 < den) (num : Nat) :
    2 * num ≤ 2 * (roundEven num den * den) + den ∧
      2 * (roundEven num den * den) ≤ 2 * num + den := by
  have hsplit := Nat.div_add_mod num den
  rw [Nat.mul_comm] at hsplit
  have hrest := Nat.mod_lt num h
  have hup : (num / den + 1) * den = num / den * den + den := Nat.succ_mul ..
  unfold roundEven
  dsimp only
  split
  · omega
  · split
    · omega
    · rcases Nat.mod_two_eq_zero_or_one (num / den) with hpar | hpar
      · rw [hpar, Nat.add_zero]
        omega
      · rw [hpar]
        omega

theorem roundEven_mono (den : Nat) (h : n ≤ m) : roundEven n den ≤ roundEven m den := by
  have hfloor : n / den ≤ m / den := Nat.div_le_div_right h
  rcases Nat.lt_or_ge (n / den) (m / den) with hlt | hge
  · have hn := (roundEven_bounds n den).2
    have hm := (roundEven_bounds m den).1
    omega
  · have heq : n / den = m / den := Nat.le_antisymm hfloor hge
    have hn := Nat.div_add_mod n den
    have hm := Nat.div_add_mod m den
    have hrest : n % den ≤ m % den := by
      rw [heq] at hn
      omega
    unfold roundEven
    dsimp only
    rw [heq]
    split_ifs <;> omega

/-! ## Natural numbers -/

/-- The natural number nearest to `n` with 53 binary digits and zeros behind them; of two, the one
with the even digits. -/
def nearestNat (n : Nat) : Nat :=
  roundEven n (2 ^ (n.log2 - 52)) * 2 ^ (n.log2 - 52)

/-- The first 53 binary digits of `n`, rounded. -/
def digits (n : Nat) : Nat :=
  roundEven (n * 2 ^ (52 - n.log2)) (2 ^ (n.log2 - 52))

theorem nearestNat_mul (n : Nat) : nearestNat n * 2 ^ 52 = digits n * 2 ^ n.log2 := by
  unfold nearestNat digits
  rcases Nat.le_total n.log2 52 with h | h
  · rw [Nat.sub_eq_zero_of_le h, Nat.pow_zero, roundEven_one, roundEven_one, Nat.mul_one,
      Nat.mul_assoc, ← Nat.pow_add, Nat.sub_add_cancel h]
  · rw [Nat.sub_eq_zero_of_le h, Nat.pow_zero, Nat.mul_one, Nat.mul_assoc, ← Nat.pow_add,
      Nat.sub_add_cancel h]

theorem digits_bounds (h : n ≠ 0) : 2 ^ 52 ≤ digits n ∧ digits n ≤ 2 ^ 53 := by
  have hlow : 2 ^ n.log2 ≤ n := Nat.log2_self_le h
  have hhigh : n ≤ 2 ^ (n.log2 + 1) := Nat.lt_log2_self.le
  have hpos : 0 < 2 ^ (n.log2 - 52) := Nat.two_pow_pos _
  -- one of the two shifts is none at all
  have hscale : 2 ^ 52 * 2 ^ (n.log2 - 52) = 2 ^ n.log2 * 2 ^ (52 - n.log2) := by
    rw [← Nat.pow_add, ← Nat.pow_add]
    congr 1
    omega
  have hscale' : 2 ^ 53 * 2 ^ (n.log2 - 52) = 2 ^ (n.log2 + 1) * 2 ^ (52 - n.log2) := by
    rw [← Nat.pow_add, ← Nat.pow_add]
    congr 1
    omega
  constructor
  · rw [← roundEven_mul (2 ^ 52) hpos, hscale]
    exact roundEven_mono _ (Nat.mul_le_mul_right _ hlow)
  · rw [← roundEven_mul (2 ^ 53) hpos, hscale']
    exact roundEven_mono _ (Nat.mul_le_mul_right _ hhigh)

theorem nearestNat_bounds (h : n ≠ 0) :
    2 ^ n.log2 ≤ nearestNat n ∧ nearestNat n ≤ 2 ^ (n.log2 + 1) := by
  obtain ⟨hlow, hhigh⟩ := digits_bounds h
  have hlow' := Nat.mul_le_mul_right (2 ^ n.log2) hlow
  have hhigh' := Nat.mul_le_mul_right (2 ^ n.log2) hhigh
  rw [← nearestNat_mul] at hlow' hhigh'
  rw [Nat.pow_succ]
  omega

theorem nearestNat_eq_self (h : n ≤ 2 ^ 53) : nearestNat n = n := by
  rcases Nat.lt_or_eq_of_le h with hlt | rfl
  · have hlog : n.log2 - 52 = 0 := by
      rcases Nat.eq_zero_or_pos n with rfl | hpos
      · rfl
      · have := (Nat.log2_lt hpos.ne').mpr hlt
        omega
    rw [nearestNat, hlog, Nat.pow_zero, roundEven_one, Nat.mul_one]
  · decide

theorem nearestNat_mono (h : n ≤ m) : nearestNat n ≤ nearestNat m := by
  rcases Nat.eq_zero_or_pos n with rfl | hpos
  · rw [nearestNat_eq_self (Nat.zero_le _)]
    exact Nat.zero_le _
  · have hm : m ≠ 0 := by omega
    have hlog : n.log2 ≤ m.log2 := (Nat.le_log2 hm).mpr ((Nat.log2_self_le hpos.ne').trans h)
    rcases Nat.lt_or_eq_of_le hlog with hlt | heq
    · exact ((nearestNat_bounds hpos.ne').2.trans (Nat.pow_le_pow_right Nat.two_pos hlt)).trans
        (nearestNat_bounds hm).1
    · rw [nearestNat, nearestNat, heq]
      exact Nat.mul_le_mul_right _ (roundEven_mono _ h)

/-- Not more is lost than half of what the last of the 53 digits stands for. -/
theorem nearestNat_near (n : Nat) : 2 * n ≤ 2 * nearestNat n + 2 ^ (n.log2 - 52) ∧
    2 * nearestNat n ≤ 2 * n + 2 ^ (n.log2 - 52) :=
  roundEven_near (Nat.two_pow_pos _) n

/-! ## Bits -/

/-- What bits of exponent and fraction stand for, the lowest exponent being that of `2 ^ 52`. -/
def value (bits : Nat) : Nat :=
  (bits % 2 ^ 52 + 2 ^ 52) * 2 ^ (bits / 2 ^ 52)

theorem strictMono_value : StrictMono value := by
  refine strictMono_nat_of_lt_succ fun k => ?_
  unfold value
  rcases Nat.lt_or_ge (k % 2 ^ 52 + 1) (2 ^ 52) with h | h
  · have hdiv : (k + 1) / 2 ^ 52 = k / 2 ^ 52 := by omega
    have hmod : (k + 1) % 2 ^ 52 = k % 2 ^ 52 + 1 := by omega
    rw [hdiv, hmod]
    exact Nat.mul_lt_mul_of_pos_right (by omega) (Nat.two_pow_pos _)
  · -- the fraction is full, so the exponent goes up by one
    have hdiv : (k + 1) / 2 ^ 52 = k / 2 ^ 52 + 1 := by omega
    have hmod : (k + 1) % 2 ^ 52 = 0 := by omega
    have hpow : 2 ^ (k / 2 ^ 52 + 1) = 2 * 2 ^ (k / 2 ^ 52) := Nat.pow_succ'
    rw [hdiv, hmod, hpow, ← Nat.mul_assoc]
    exact Nat.mul_lt_mul_of_pos_right (by omega) (Nat.two_pow_pos _)

/-- The bits of 53 digits stand for these digits at the place that the exponent says. -/
theorem value_mul_add (e : Nat) {d : Nat} (hlow : 2 ^ 52 ≤ d) (hhigh : d ≤ 2 ^ 53) :
    value (e * 2 ^ 52 + d) = 2 * (d * 2 ^ e) := by
  unfold value
  rcases Nat.lt_or_eq_of_le hhigh with hlt | rfl
  · have hdiv : (e * 2 ^ 52 + d) / 2 ^ 52 = e + 1 := by omega
    have hmod : (e * 2 ^ 52 + d) % 2 ^ 52 + 2 ^ 52 = d := by omega
    rw [hdiv, hmod]
    ring
  · -- rounding up has made one digit more
    have hdiv : (e * 2 ^ 52 + 2 ^ 53) / 2 ^ 52 = e + 2 := by omega
    have hmod : (e * 2 ^ 52 + 2 ^ 53) % 2 ^ 52 + 2 ^ 52 = 2 ^ 52 := by omega
    rw [hdiv, hmod]
    ring

theorem value_digits (h : n ≠ 0) : value (n.log2 * 2 ^ 52 + digits n) = nearestNat n * 2 ^ 53 := by
  obtain ⟨hlow, hhigh⟩ := digits_bounds h
  rw [value_mul_add _ hlow hhigh, ← nearestNat_mul]
  ring

theorem binaryExponent_one (h : n ≠ 0) : binaryExponent n 1 = n.log2 := by
  have hexp : (n.log2 : Int) - Nat.log2 1 = n.log2 := Int.sub_zero _
  have hneg : (-(n.log2 : Int)).toNat = 0 := by omega
  have hle : 1 * pow2 (n.log2 : Int).toNat ≤ n * pow2 (-(n.log2 : Int)).toNat := by
    rw [Nat.one_mul, hneg, pow2_eq, pow2_eq, Nat.pow_zero, Nat.mul_one, Int.toNat_natCast]
    exact Nat.log2_self_le h
  unfold binaryExponent
  dsimp only
  rw [hexp, if_pos hle]

/-- The bits of the double that a natural number becomes. -/
theorem roundMagnitude_one (h : n ≠ 0) (hn : n < 2 ^ 64) :
    roundMagnitude n 1 = n.log2 * 2 ^ 52 + digits n + 1022 * 2 ^ 52 := by
  have hlog : n.log2 < 64 := (Nat.log2_lt h).mpr hn
  have hdigits := (digits_bounds h).2
  have hq : max ((n.log2 : Int) - 52) (-1074) = (n.log2 : Int) - 52 := by omega
  have hup : (-((n.log2 : Int) - 52)).toNat = 52 - n.log2 := by omega
  have hdown : ((n.log2 : Int) - 52).toNat = n.log2 - 52 := by omega
  have hexp : ((n.log2 : Int) - 52 + 1074).toNat = n.log2 + 1022 := by omega
  rw [roundMagnitude, if_neg h, binaryExponent_one h]
  dsimp only
  rw [hq, hup, hdown, hexp, Nat.one_mul]
  -- so few digits are far from infinity
  have hinfinity : infinityBits = 2047 * 2 ^ 52 := rfl
  have hbits : (n.log2 + 1022) * 2 ^ 52 + digits n ≤ infinityBits := by omega
  have hsplit : (n.log2 + 1022) * 2 ^ 52 + digits n =
      n.log2 * 2 ^ 52 + digits n + 1022 * 2 ^ 52 := by omega
  exact (Nat.min_eq_left hbits).trans hsplit

theorem roundMagnitude_lt_iff (hn : n < 2 ^ 64) (hm : m < 2 ^ 64) :
    roundMagnitude n 1 < roundMagnitude m 1 ↔ nearestNat n < nearestNat m := by
  have hbits {k : Nat} (hk : k ≠ 0) (hk' : k < 2 ^ 64) : 0 < roundMagnitude k 1 := by
    rw [roundMagnitude_one hk hk']
    omega
  have hpos {k : Nat} (hk : k ≠ 0) : 0 < nearestNat k :=
    (Nat.two_pow_pos _).trans_le (nearestNat_bounds hk).1
  have hnone : roundMagnitude 0 1 = 0 := rfl
  have hzero : nearestNat 0 = 0 := nearestNat_eq_self (Nat.zero_le _)
  by_cases hm0 : m = 0
  · rw [hm0, hnone, hzero]
    exact iff_of_false (Nat.not_lt_zero _) (Nat.not_lt_zero _)
  by_cases hn0 : n = 0
  · rw [hn0, hnone, hzero]
    exact iff_of_true (hbits hm0 hm) (hpos hm0)
  · rw [roundMagnitude_one hn0 hn, roundMagnitude_one hm0 hm, Nat.add_lt_add_iff_right,
      ← strictMono_value.lt_iff_lt, value_digits hn0, value_digits hm0]
    exact Nat.mul_lt_mul_right (Nat.two_pow_pos _)

/-! ## Integers -/

/-- The integer with 53 binary digits and zeros behind them that is nearest to `i`. -/
def nearest (i : Int) : Int :=
  if i < 0 then -nearestNat i.natAbs else nearestNat i.natAbs

theorem nearest_eq_self (h : i.natAbs ≤ 2 ^ 53) : nearest i = i := by
  rw [nearest, nearestNat_eq_self h]
  split <;> omega

theorem nearest_mono (h : a ≤ b) : nearest a ≤ nearest b := by
  unfold nearest
  split
  · split
    · have := nearestNat_mono (show b.natAbs ≤ a.natAbs by omega)
      omega
    · omega
  · have := nearestNat_mono (show a.natAbs ≤ b.natAbs by omega)
    split <;> omega

theorem nearest_near (h : i.natAbs ≤ 2 ^ 63) : i ≤ nearest i + 512 ∧ nearest i ≤ i + 512 := by
  have hnear : 2 * i.natAbs ≤ 2 * nearestNat i.natAbs + 1024 ∧
      2 * nearestNat i.natAbs ≤ 2 * i.natAbs + 1024 := by
    rcases Nat.lt_or_eq_of_le h with hlt | heq
    · have hlog : i.natAbs.log2 ≤ 62 := by
        rcases Nat.eq_zero_or_pos i.natAbs with hzero | hpos
        · rw [hzero]
          decide
        · exact Nat.le_of_lt_succ ((Nat.log2_lt hpos.ne').mpr hlt)
      have hunit : 2 ^ (i.natAbs.log2 - 52) ≤ 2 ^ 10 :=
        Nat.pow_le_pow_right Nat.two_pos (by omega)
      have := nearestNat_near i.natAbs
      omega
    · rw [heq]
      decide
  unfold nearest
  split <;> omega

/-- Integers of 64 bits that are further apart than 1024 do not become the same. -/
theorem nearest_lt (ha : a.natAbs ≤ 2 ^ 63) (hb : b.natAbs ≤ 2 ^ 63) (h : a + 1024 < b) :
    nearest a < nearest b := by
  have hup := (nearest_near ha).2
  have hdown := (nearest_near hb).1
  omega

/-! ## Doubles -/

theorem roundMagnitude_le (num den : Nat) : roundMagnitude num den ≤ infinityBits := by
  unfold roundMagnitude
  split
  · exact Nat.zero_le _
  · exact Nat.min_le_right ..

theorem toNat_bits_ofMagnitude (negative : Bool) (h : n < 2 ^ 63) :
    (ofMagnitude negative n).bits.toNat = n + if negative then 2 ^ 63 else 0 := by
  have hsum : n + (if negative then 2 ^ 63 else 0) < 2 ^ 64 := by
    split <;> omega
  exact UInt64.toNat_ofNat_of_lt' hsum

/-- The place of a double in the order, by its sign and the bits below. -/
theorem rank_ofMagnitude (negative : Bool) (h : n < 2 ^ 63) :
    (ofMagnitude negative n).rank = if negative then -(n : Int) - 1 else n := by
  have hbits := toNat_bits_ofMagnitude negative h
  have hmagnitude : (ofMagnitude negative n).magnitude = n := by
    rw [magnitude, hbits, pow2_eq]
    split <;> omega
  have hnegative : (ofMagnitude negative n).isNegative = negative := by
    rw [isNegative, hbits, pow2_eq]
    cases negative with
    | false => exact decide_eq_false (Nat.not_le.mpr h)
    | true => exact decide_eq_true (Nat.le_add_left _ _)
  rw [rank, hnegative, hmagnitude]

theorem rank_ofInt (i : Int) : (ofInt i).rank =
    if i < 0 then -(roundMagnitude i.natAbs 1 : Int) - 1 else roundMagnitude i.natAbs 1 := by
  have hbound : roundMagnitude i.natAbs 1 < 2 ^ 63 :=
    (roundMagnitude_le i.natAbs 1).trans_lt (by decide)
  rw [ofInt, ofRatio, rank_ofMagnitude _ hbound]
  simp only [decide_eq_true_eq]

theorem rank_lt_iff (ha : a.natAbs < 2 ^ 64) (hb : b.natAbs < 2 ^ 64) :
    (ofInt a).rank < (ofInt b).rank ↔ nearest a < nearest b := by
  have hlt := roundMagnitude_lt_iff ha hb
  have hgt := roundMagnitude_lt_iff hb ha
  have hpos : a < 0 → 0 < nearestNat a.natAbs := fun h =>
    (Nat.two_pow_pos _).trans_le (nearestNat_bounds (by omega)).1
  have hpos' : b < 0 → 0 < nearestNat b.natAbs := fun h =>
    (Nat.two_pow_pos _).trans_le (nearestNat_bounds (by omega)).1
  rw [rank_ofInt, rank_ofInt]
  unfold nearest
  split <;> split <;> omega

/-- Doubles that integers become are ordered as the nearest integers with 53 digits. -/
theorem order_ofInt (ha : a.natAbs < 2 ^ 64) (hb : b.natAbs < 2 ^ 64) :
    (ofInt a).order (ofInt b) = compare (nearest a) (nearest b) := by
  have hlt := rank_lt_iff ha hb
  have hgt := rank_lt_iff hb ha
  unfold order
  rcases Int.lt_trichotomy (nearest a) (nearest b) with h | h | h
  · rw [compare_lt_iff_lt.mpr h, compare_lt_iff_lt.mpr (hlt.mpr h)]
  · have heq : (ofInt a).rank = (ofInt b).rank := by omega
    rw [compare_eq_iff_eq.mpr h, compare_eq_iff_eq.mpr heq]
  · rw [compare_gt_iff_gt.mpr h, compare_gt_iff_gt.mpr (hgt.mpr h)]

end ContactGraph.Double
