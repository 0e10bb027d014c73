import ContactGraph.Proofs.Time.Reading

/-!
# Written instants

An instant that is written is read back when its year has four digits (`Instant.ofText?_write`),
leap seconds and fractions included. Other years are written with a sign, which the reader of
timestamps does not take, and the time of day behind it keeps the text from being read as a date
(`Instant.ofText?_write_eq_none`).
-/

namespace ContactGraph

open Number

namespace Time

variable {nano : Nat} {rest : List Char}

/-- A timestamp begins with a digit. -/
theorem ofTimestamp?_cons {c : Char} {cs : List Char} (hc : c.isDigit = false) :
    ofTimestamp? (c :: cs) = none := by
  have hyear : number? 4 4 (c :: cs) = none := by simp [number?, spanDigits, hc]
  rw [ofTimestamp?, hyear]
  rfl

@[simp] theorem afterDate?_T (cs : List Char) : afterDate? ('T' :: cs) = some cs :=
  rfl

/-- Digits behind a point are read as parts of a second. -/
theorem fraction?_point {width value : Nat} (hwidth : 0 < width) (hmost : width ≤ 9)
    (hvalue : value < pow10 width) (hrest : ∀ c ∈ rest.head?, c.isDigit = false) :
    fraction? ('.' :: padded width value ++ rest) = some (value * pow10 (9 - width), rest) := by
  have hnumber : number? 1 9 (padded width value ++ rest) = some (value, rest) :=
    number?_padded hwidth hvalue hwidth hmost (.inr hrest)
  have hlength : (padded width value ++ rest).length - rest.length = width := by
    rw [List.length_append, length_padded hwidth hvalue, Nat.add_sub_cancel]
  have hstop : rest.dropWhile Char.isDigit = rest := by
    cases rest with
    | nil => rfl
    | cons c rest => exact List.dropWhile_cons_of_neg (by simp [hrest c rfl])
  rw [List.cons_append, fraction?, hnumber]
  simp only [Option.bind_eq_bind, Option.bind_some, hlength, hstop, Option.pure_def]

/-- A fraction is read back. -/
theorem fraction?_fractionDigits (hnano : nano < 1000000000)
    (hrest : ∀ c ∈ rest.head?, c.isDigit = false) (hpoint : '.' ∉ rest.head?) :
    fraction? (fractionDigits nano ++ rest) = some (nano, rest) := by
  rw [fractionDigits]
  split
  · rename_i hzero
    rw [List.nil_append, hzero]
    unfold fraction?
    split
    · exact absurd rfl hpoint
    · rfl
  · split
    · rename_i hmod
      have hvalue : nano / 1000000 < 1000 := by omega
      have hscale : nano / 1000000 * pow10 6 = nano :=
        Nat.div_mul_cancel (Nat.dvd_of_mod_eq_zero hmod)
      rw [fraction?_point (by decide) (by decide) hvalue hrest, hscale]
    · split
      · rename_i hmod
        have hvalue : nano / 1000 < 1000000 := by omega
        have hscale : nano / 1000 * pow10 3 = nano :=
          Nat.div_mul_cancel (Nat.dvd_of_mod_eq_zero hmod)
        rw [fraction?_point (by decide) (by decide) hvalue hrest, hscale]
      · have hscale : nano * pow10 0 = nano := Nat.mul_one nano
        rw [fraction?_point (by decide) (by decide) hnano hrest, hscale]

end Time

namespace Instant

variable {i : Instant}

theorem second_lt (i : Instant) : i.second < 86400 := by
  have hclock := i.clock_valid
  simp only [isClockTime, Bool.and_eq_true, decide_eq_true_eq] at hclock
  exact hclock.1.1

theorem nano_lt (i : Instant) : i.nano < 2000000000 := by
  have hclock := i.clock_valid
  simp only [isClockTime, Bool.and_eq_true, decide_eq_true_eq] at hclock
  exact hclock.1.2

/-- A leap second is at the end of a minute. -/
theorem second_mod_of_leap (h : 1000000000 ≤ i.nano) : i.second % 60 = 59 := by
  have hclock := i.clock_valid
  simp only [isClockTime, Bool.and_eq_true, Bool.or_eq_true, decide_eq_true_eq] at hclock
  exact hclock.2.resolve_left (Nat.not_lt.mpr h)

theorem date_bounds (i : Instant) : 1 ≤ i.date.month ∧ i.date.month ≤ 12 ∧ 1 ≤ i.date.day ∧
    i.date.day ≤ 31 := by
  have hdate := i.date_valid
  have hdays : Date.daysIn i.date.year i.date.month ≤ 31 := by
    unfold Date.daysIn
    split <;> split <;> omega
  simp only [Date.isValid, Bool.and_eq_true, decide_eq_true_eq] at hdate
  omega

/-- A clock that shows UTC shows the instant. -/
theorem ofLocal?_zero (i : Instant) : ofLocal? i.date i.second i.nano 0 = some i := by
  have hsecond := i.second_lt
  have hshift : (i.second : Int) - 0 = i.second := Int.sub_zero _
  unfold ofLocal?
  dsimp only
  rw [hshift, if_neg (by omega), if_neg (by omega), Int.toNat_natCast, of?,
    dif_pos ⟨i.date_valid, i.clock_valid⟩]

/-- An instant is that of its clock time. In a leap second the clock shows 60. -/
theorem ofParts?_clock (i : Instant) : Time.ofParts? i.date (i.second / 3600) (i.second / 60 % 60)
    (i.second % 60 + if 1000000000 ≤ i.nano then 1 else 0)
    (if 1000000000 ≤ i.nano then i.nano - 1000000000 else i.nano) 0 = some i := by
  have hsecond := i.second_lt
  have hhour : i.second / 3600 < 24 := by omega
  have hminute : i.second / 60 % 60 < 60 := by omega
  by_cases hleap : 1000000000 ≤ i.nano
  · have hlast := second_mod_of_leap hleap
    have hclock : i.second / 3600 * 3600 + i.second / 60 % 60 * 60 + 60 - 1 = i.second := by omega
    have hnano : i.nano - 1000000000 + 1 * 1000000000 = i.nano := by omega
    simp only [Time.ofParts?, hleap, hlast, hhour, hminute, i.date_valid, if_true, decide_true,
      Bool.and_true, Nat.reduceAdd, Nat.le_refl, hclock, hnano]
    exact i.ofLocal?_zero
  · have hlast : i.second % 60 ≠ 60 ∧ i.second % 60 ≤ 60 := by omega
    have hclock :
        i.second / 3600 * 3600 + i.second / 60 % 60 * 60 + i.second % 60 - 0 = i.second := by
      omega
    have hnano : i.nano + 0 * 1000000000 = i.nano := by omega
    simp only [Time.ofParts?, hleap, hlast.1, hlast.2, hhour, hminute, i.date_valid, if_false,
      if_true, decide_true, Bool.and_true, Nat.add_zero, hclock, hnano]
    exact i.ofLocal?_zero

/-- The year has four digits. -/
def HasPlainYear (i : Instant) : Prop :=
  0 ≤ i.date.year ∧ i.date.year ≤ 9999

theorem yearDigits_eq (h : i.HasPlainYear) :
    yearDigits i.date.year = padded 4 i.date.year.natAbs := by
  rw [yearDigits, if_neg (Int.not_lt.mpr h.1), if_neg (Int.not_lt.mpr h.2)]

theorem ofTimestamp?_write (h : i.HasPlainYear) :
    Time.ofTimestamp? (i.write "+00:00".toList) = some i := by
  obtain ⟨-, hmonth, -, hday⟩ := i.date_bounds
  have hsecond := i.second_lt
  have hnano := i.nano_lt
  have hyearValue : (i.date.year.natAbs : Int) = i.date.year := Int.natAbs_of_nonneg h.1
  have hyear : i.date.year.natAbs < 10000 := by
    have hmost := h.2
    omega
  -- what the reader finds, part by part
  have hreadYear (rest : List Char) : Time.number? 4 4 (padded 4 i.date.year.natAbs ++ rest) =
      some (i.date.year.natAbs, rest) :=
    Time.number?_padded (by decide) hyear (by decide) (by decide) (.inl rfl)
  have hreadMonth := Time.number?_two (show i.date.month < 100 by omega)
  have hreadDay := Time.number?_two (show i.date.day < 100 by omega)
  have hreadHour := Time.number?_two (show i.second / 3600 < 100 by omega)
  have hreadMinute := Time.number?_two (show i.second / 60 % 60 < 100 by omega)
  have hreadSecond := Time.number?_two
    (show (i.second % 60 + if 1000000000 ≤ i.nano then 1 else 0) < 100 by split <;> omega)
  have hreadFraction : Time.fraction?
      (fractionDigits (if 1000000000 ≤ i.nano then i.nano - 1000000000 else i.nano) ++
        "+00:00".toList) =
      some (if 1000000000 ≤ i.nano then i.nano - 1000000000 else i.nano, "+00:00".toList) :=
    Time.fraction?_fractionDigits (by split <;> omega) (by rintro c ⟨⟩; rfl) (by decide)
  have hreadZone : Time.zone? (Time.after? ':') "+00:00".toList = some (0, []) := by decide
  simp only [write, Date.write, yearDigits_eq h, List.append_assoc, List.cons_append]
  simp only [Time.ofTimestamp?, Option.bind_eq_bind, Option.bind_some, Time.after?_self,
    Time.afterDate?_T, hreadYear, hreadMonth, hreadDay, hreadHour, hreadMinute, hreadSecond,
    hreadFraction, hreadZone, List.isEmpty_nil, if_true, hyearValue]
  exact i.ofParts?_clock

/-- An instant with a year of four digits is read back. -/
theorem ofText?_write (h : i.HasPlainYear) : ofText? (i.write "+00:00".toList) = some i := by
  rw [ofText?, ofTimestamp?_write h]

/-- Another one is neither a timestamp, because of the sign of its year, nor a date. -/
theorem ofText?_write_eq_none (h : ¬ i.HasPlainYear) :
    ofText? (i.write "+00:00".toList) = none := by
  have htime : 'T' ∈ i.write "+00:00".toList := by simp [write]
  obtain ⟨sign, digits, hsign, hwrite⟩ : ∃ sign digits, sign.isDigit = false ∧
      i.write "+00:00".toList = sign :: digits := by
    rw [HasPlainYear, not_and_or, Int.not_le, Int.not_le] at h
    simp only [write, Date.write, yearDigits]
    split
    · exact ⟨'-', _, rfl, rfl⟩
    · rename_i hyear
      rw [if_pos (h.resolve_left hyear)]
      exact ⟨'+', _, rfl, rfl⟩
  rw [ofText?, Time.ofDay?_eq_none (by decide) htime, hwrite, Time.ofTimestamp?_cons hsign]

/-- There is no white space in a written instant. -/
theorem isBlank_of_mem_write {c : Char} (h : c ∈ i.write "+00:00".toList) :
    Text.isBlank c = false := by
  have hdigits {width n : Nat} (h : c ∈ padded width n) : Text.isBlank c = false :=
    Text.isBlank_of_isDigit (isDigit_of_mem_padded h)
  have hmark {mark : Char} {width n : Nat} (hblank : Text.isBlank mark = false)
      (h : c ∈ mark :: padded width n) : Text.isBlank c = false := by
    rcases List.mem_cons.mp h with rfl | h
    · exact hblank
    · exact hdigits h
  have hyear (year : Int) (h : c ∈ yearDigits year) : Text.isBlank c = false := by
    unfold yearDigits at h
    split at h
    · exact hmark rfl h
    · split at h
      · exact hmark rfl h
      · exact hdigits h
  have hfraction (nano : Nat) (h : c ∈ fractionDigits nano) : Text.isBlank c = false := by
    unfold fractionDigits at h
    split at h
    · exact absurd h List.not_mem_nil
    · split at h
      · exact hmark rfl h
      · split at h <;> exact hmark rfl h
  have hzone : ∀ c ∈ "+00:00".toList, Text.isBlank c = false := by simp [Text.isBlank]
  simp only [write, Date.write, List.mem_append] at h
  rcases h with (((((((h | h) | h) | h) | h) | h) | h) | h)
  · exact hyear _ h
  · exact hmark rfl h
  · exact hmark rfl h
  · exact hmark rfl h
  · exact hmark rfl h
  · exact hmark rfl h
  · exact hfraction _ h
  · exact hzone c h

end Instant

end ContactGraph
