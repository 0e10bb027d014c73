import ContactGraph.Proofs.Number.Digits
import ContactGraph.Proofs.Text.Blank
import ContactGraph.Schema.Coercion

/-!
# What readers of instants read

A reader takes a text apart from left to right and gives back what it leaves. Digits are read as
far as they go (`number?_padded`). A character that stands in no date is left by the reader of dates
(`mem_of_date?`), and one that stands in no timestamp either makes a text unreadable
(`ofText?_eq_none`).
-/

namespace ContactGraph.Time

open ContactGraph.Text ContactGraph.Number

variable {c d : Char} {cs ds rest : List Char} {n least most width : Nat}

/-! ## Numbers -/

/-- Digits that are enough, or behind which none follows, are read together. -/
theorem spanDigits_append (hdigits : ∀ c ∈ ds, c.isDigit = true) (hlength : ds.length ≤ most)
    (hend : ds.length = most ∨ ∀ c ∈ rest.head?, c.isDigit = false) :
    spanDigits most (ds ++ rest) = (ds, rest) := by
  induction ds generalizing most with
  | nil =>
    cases most with
    | zero => rfl
    | succ most =>
      cases rest with
      | nil => rfl
      | cons c rest =>
        have hc : c.isDigit = false := hend.resolve_left (by simp) c rfl
        simp [spanDigits, hc]
  | cons d ds ih =>
    rw [List.forall_mem_cons] at hdigits
    cases most with
    | zero => cases hlength
    | succ most =>
      have hrest := ih hdigits.2 (Nat.le_of_succ_le_succ hlength) (hend.imp_left Nat.succ.inj)
      simp [spanDigits, hdigits.1, hrest]

/-- A padded number is read back. -/
theorem number?_padded (hwidth : 0 < width) (h : n < pow10 width) (hleast : least ≤ width)
    (hmost : width ≤ most) (hend : width = most ∨ ∀ c ∈ rest.head?, c.isDigit = false) :
    number? least most (padded width n ++ rest) = some (n, rest) := by
  have hlength := length_padded hwidth h
  have hspan : spanDigits most (padded width n ++ rest) = (padded width n, rest) :=
    spanDigits_append (fun c => isDigit_of_mem_padded) (by rwa [hlength]) (by rwa [hlength])
  rw [number?, hspan]
  dsimp only
  rw [hlength, if_neg (Nat.not_lt.mpr hleast), natural?_padded, Option.map_some]

/-- Two digits are read back, whatever follows. -/
theorem number?_two (h : n < 100) (rest : List Char) :
    number? 2 2 (padded 2 n ++ rest) = some (n, rest) :=
  number?_padded (by decide) h (Nat.le_refl 2) (Nat.le_refl 2) (.inl rfl)

@[simp] theorem after?_self (c : Char) (cs : List Char) : after? c (c :: cs) = some cs :=
  if_pos rfl

/-! ## What is left -/

theorem mem_spanDigits (hc : c.isDigit = false) (most : Nat) (h : c ∈ cs) :
    c ∈ (spanDigits most cs).2 := by
  induction cs generalizing most with
  | nil => exact absurd h List.not_mem_nil
  | cons d cs ih =>
    cases most with
    | zero => exact h
    | succ most =>
      rw [spanDigits]
      split
      · rename_i hd
        refine ih most ((List.mem_cons.mp h).resolve_left fun heq => ?_)
        rw [heq, hd] at hc
        cases hc
      · exact h

theorem mem_of_number? (hc : c.isDigit = false) (hread : number? least most cs = some (n, rest))
    (h : c ∈ cs) : c ∈ rest := by
  rw [number?] at hread
  dsimp only at hread
  split at hread
  · cases hread
  · obtain ⟨_, -, heq⟩ := Option.map_eq_some_iff.mp hread
    rw [← (Prod.mk.inj heq).2]
    exact mem_spanDigits hc most h

theorem mem_of_after? (hne : c ≠ d) (hread : after? d cs = some rest) (h : c ∈ cs) : c ∈ rest := by
  cases cs with
  | nil => cases hread
  | cons e cs =>
    rw [after?] at hread
    split at hread
    · rename_i he
      obtain rfl := Option.some.inj hread
      exact (List.mem_cons.mp h).resolve_left (he ▸ hne)
    · cases hread

/-- Whether a character can stand in a date. -/
def isDateChar (c : Char) : Bool :=
  c.isDigit || isBlank c || c = '-' || c = '+'

theorem isDateChar_eq_false_iff : isDateChar c = false ↔
    c.isDigit = false ∧ isBlank c = false ∧ c ≠ '-' ∧ c ≠ '+' := by
  simp [isDateChar, and_assoc]

theorem mem_of_year? (hc : isDateChar c = false) {year : Int}
    (hread : year? cs = some (year, rest)) (h : c ∈ cs) : c ∈ rest := by
  obtain ⟨hdigit, -, hminus, hplus⟩ := isDateChar_eq_false_iff.mp hc
  unfold year? at hread
  split at hread
  all_goals
    obtain ⟨⟨n, r⟩, hnumber, heq⟩ := Option.map_eq_some_iff.mp hread
    obtain rfl : r = rest := (Prod.mk.inj heq).2
  · exact mem_of_number? hdigit hnumber ((List.mem_cons.mp h).resolve_left hminus)
  · exact mem_of_number? hdigit hnumber ((List.mem_cons.mp h).resolve_left hplus)
  · exact mem_of_number? hdigit hnumber h

/-- What can stand in no date is left when one is read. -/
theorem mem_of_date? (hc : isDateChar c = false) {gap : List Char → List Char}
    (hgap : ∀ cs, c ∈ cs → c ∈ gap cs) {date : Date} (hread : date? gap cs = some (date, rest))
    (h : c ∈ cs) : c ∈ rest := by
  obtain ⟨hdigit, hblank, hminus, -⟩ := isDateChar_eq_false_iff.mp hc
  simp only [date?, Option.bind_eq_bind, Option.bind_eq_some_iff, Prod.exists, Option.pure_def,
    Option.some.injEq, Prod.mk.injEq] at hread
  obtain ⟨year, r₁, hyear, r₂, hdash, month, r₃, hmonth, r₄, hdash', day, r₅, hday, -, rfl⟩ := hread
  have h₁ := mem_of_year? hc hyear ((mem_dropBlank_iff hblank).mpr h)
  have h₂ := mem_of_after? hminus hdash (hgap r₁ h₁)
  have h₃ := mem_of_number? hdigit hmonth ((mem_dropBlank_iff hblank).mpr h₂)
  have h₄ := mem_of_after? hminus hdash' (hgap r₃ h₃)
  exact mem_of_number? hdigit hday ((mem_dropBlank_iff hblank).mpr h₄)

/-- A text with anything in it that stands in no date is no day. -/
theorem ofDay?_eq_none (hc : isDateChar c = false) (h : c ∈ cs) : ofDay? cs = none := by
  rw [Option.eq_none_iff_forall_not_mem]
  intro i hread
  simp only [ofDay?, Option.bind_eq_bind, Option.mem_def, Option.bind_eq_some_iff, Prod.exists,
    Option.ite_none_right_eq_some] at hread
  obtain ⟨date, rest, hdate, hempty, -⟩ := hread
  have hrest := mem_of_date? hc (fun _ => id) hdate h
  rw [List.isEmpty_iff.mp hempty] at hrest
  exact absurd hrest List.not_mem_nil

/-- Whether a character can stand in a timestamp. -/
def isTimestampChar (c : Char) : Bool :=
  isDateChar c || ['T', 't', ':', '.', 'Z', 'z', '\u2212'].contains c

theorem isTimestampChar_eq_false_iff : isTimestampChar c = false ↔
    isDateChar c = false ∧ c ∉ ['T', 't', ':', '.', 'Z', 'z', '\u2212'] := by
  rw [isTimestampChar, Bool.or_eq_false_iff, List.contains_eq_mem, decide_eq_false_iff_not]

theorem mem_of_afterDate? (hc : c ∉ ['T', 't', ' ']) (hread : afterDate? cs = some rest)
    (h : c ∈ cs) : c ∈ rest := by
  cases cs with
  | nil => cases hread
  | cons d cs =>
    simp only [afterDate?, Option.ite_none_right_eq_some, Option.some.injEq, Bool.or_eq_true,
      decide_eq_true_eq] at hread
    obtain ⟨hd, rfl⟩ := hread
    refine (List.mem_cons.mp h).resolve_left fun heq => hc ?_
    simpa [heq, or_assoc] using hd

theorem mem_of_fraction? (hdigit : c.isDigit = false) (hpoint : c ≠ '.')
    (hread : fraction? cs = some (n, rest)) (h : c ∈ cs) : c ∈ rest := by
  unfold fraction? at hread
  split at hread
  · rename_i cs
    simp only [Option.bind_eq_bind, Option.bind_eq_some_iff, Prod.exists, Option.pure_def,
      Option.some.injEq, Prod.mk.injEq] at hread
    obtain ⟨value, r, hnumber, -, rfl⟩ := hread
    have hr := mem_of_number? hdigit hnumber ((List.mem_cons.mp h).resolve_left hpoint)
    rw [← List.takeWhile_append_dropWhile (p := Char.isDigit) (l := r), List.mem_append] at hr
    refine hr.resolve_left fun hmem => ?_
    rw [List.all_eq_true.mp List.all_takeWhile c hmem] at hdigit
    cases hdigit
  · obtain ⟨-, rfl⟩ := Prod.mk.inj (Option.some.inj hread)
    exact h

theorem mem_of_zoneSign? (hminus : c ≠ '-') (hplus : c ≠ '+') (hlong : c ≠ '\u2212') {sign : Int}
    (hread : zoneSign? cs = some (sign, rest)) (h : c ∈ cs) : c ∈ rest := by
  cases cs with
  | nil => cases hread
  | cons d cs =>
    rw [zoneSign?] at hread
    split at hread
    · rename_i hd
      obtain rfl := (Prod.mk.inj (Option.some.inj hread)).2
      exact (List.mem_cons.mp h).resolve_left (hd ▸ hplus)
    · obtain ⟨hd, heq⟩ := Option.ite_none_right_eq_some.mp hread
      obtain rfl := (Prod.mk.inj (Option.some.inj heq)).2
      refine (List.mem_cons.mp h).resolve_left fun hcd => ?_
      simp [← hcd, hminus, hlong] at hd

theorem mem_of_zone? (hc : isTimestampChar c = false) {offset : Int}
    (hread : zone? (after? ':') cs = some (offset, rest)) (h : c ∈ cs) : c ∈ rest := by
  obtain ⟨hdate, hother⟩ := isTimestampChar_eq_false_iff.mp hc
  obtain ⟨hdigit, -, hminus, hplus⟩ := isDateChar_eq_false_iff.mp hdate
  simp only [List.mem_cons, List.not_mem_nil, or_false, not_or] at hother
  obtain ⟨-, -, hcolon, -, hZ, hz, hlong⟩ := hother
  unfold zone? at hread
  split at hread
  · obtain rfl := (Prod.mk.inj (Option.some.inj hread)).2
    exact (List.mem_cons.mp h).resolve_left hZ
  · obtain rfl := (Prod.mk.inj (Option.some.inj hread)).2
    exact (List.mem_cons.mp h).resolve_left hz
  · simp only [Option.bind_eq_bind, Option.bind_eq_some_iff, Prod.exists,
      Option.ite_none_right_eq_some, Option.pure_def, Option.some.injEq, Prod.mk.injEq] at hread
    obtain ⟨sign, r₁, hsign, hours, r₂, hhours, r₃, hbetween, minutes, r₄, hminutes, -, -, rfl⟩ :=
      hread
    have h₁ := mem_of_zoneSign? hminus hplus hlong hsign h
    have h₂ := mem_of_number? hdigit hhours h₁
    have h₃ := mem_of_after? hcolon hbetween h₂
    exact mem_of_number? hdigit hminutes h₃

/-- A text with anything in it that stands in no timestamp is none. -/
theorem ofTimestamp?_eq_none (hc : isTimestampChar c = false) (h : c ∈ cs) :
    ofTimestamp? cs = none := by
  obtain ⟨hdate, hother⟩ := isTimestampChar_eq_false_iff.mp hc
  obtain ⟨hdigit, hblank, hminus, -⟩ := isDateChar_eq_false_iff.mp hdate
  simp only [List.mem_cons, List.not_mem_nil, or_false, not_or] at hother
  obtain ⟨hT, ht, hcolon, hpoint, -⟩ := hother
  have hspace : c ≠ ' ' := fun heq => by rw [heq] at hblank; cases hblank
  rw [Option.eq_none_iff_forall_not_mem]
  intro i hread
  simp only [ofTimestamp?, Option.bind_eq_bind, Option.mem_def, Option.bind_eq_some_iff,
    Prod.exists, Option.ite_none_right_eq_some] at hread
  obtain ⟨_, r₁, hyear, r₂, hdash, _, r₃, hmonth, r₄, hdash', _, r₅, hday, r₆, hdate, _, r₇, hhour,
    r₈, hcolon₁, _, r₉, hminute, r₁₀, hcolon₂, _, r₁₁, hsecond, _, r₁₂, hfraction, _, r₁₃, hzone,
    hempty, -⟩ := hread
  have h₂ := mem_of_after? hminus hdash (mem_of_number? hdigit hyear h)
  have h₄ := mem_of_after? hminus hdash' (mem_of_number? hdigit hmonth h₂)
  have h₆ := mem_of_afterDate? (by simp [hT, ht, hspace]) hdate (mem_of_number? hdigit hday h₄)
  have h₈ := mem_of_after? hcolon hcolon₁ (mem_of_number? hdigit hhour h₆)
  have h₁₀ := mem_of_after? hcolon hcolon₂ (mem_of_number? hdigit hminute h₈)
  have h₁₂ := mem_of_fraction? hdigit hpoint hfraction (mem_of_number? hdigit hsecond h₁₀)
  have h₁₃ := mem_of_zone? hc hzone h₁₂
  rw [List.isEmpty_iff.mp hempty] at h₁₃
  exact absurd h₁₃ List.not_mem_nil

end ContactGraph.Time

namespace ContactGraph

/-- A text with anything in it that stands in no timestamp is no instant. -/
theorem Instant.ofText?_eq_none {c : Char} {cs : List Char} (hc : Time.isTimestampChar c = false)
    (h : c ∈ cs) : ofText? cs = none := by
  rw [ofText?, Time.ofTimestamp?_eq_none hc h,
    Time.ofDay?_eq_none (Time.isTimestampChar_eq_false_iff.mp hc).1 h]

end ContactGraph
