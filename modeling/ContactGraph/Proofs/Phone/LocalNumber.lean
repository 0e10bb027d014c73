import ContactGraph.Phone.LocalNumber
import Mathlib.Data.List.Basic
import Mathlib.Data.List.TakeWhile
import Mathlib.Logic.Relation

/-!
# Ways to write a phone number

One number can be written in many ways : with separators and invisible characters anywhere, in the
digits of any script, and with tones behind it (`Rewrites`). A character is a digit, or it is left
out, or it stays as it is, and what it becomes stays as it is (`normalizeChar_of_mem_normalize`). So
all ways to write a number have the same characters in front of the tones
(`dialled_eq_of_rewrites`). The local number is the end of these, and its own local number
(`isLocalNumber_localNumber`).
-/

namespace ContactGraph.Phone

variable {c x : Char} {k length : Nat} {number other : List Char}

/-! ## Digits -/

/-- The first digit of every script, Latin included. -/
def scripts : List Nat :=
  '0'.toNat :: zeros

/-- A character is the digit `k` of a script. -/
def IsDigit (k : Nat) (c : Char) : Prop :=
  k < 10 ∧ ∃ first ∈ scripts, c.toNat = first + k

/-- The Latin digit `k`. -/
def latin (k : Nat) : Char :=
  Char.ofNat ('0'.toNat + k)

theorem toNat_latin : ∀ k < 10, (latin k).toNat = '0'.toNat + k := by
  decide

theorem isDigit_latin (hk : k < 10) : IsDigit k (latin k) :=
  ⟨hk, '0'.toNat, List.mem_cons_self, toNat_latin k hk⟩

/-- The digits of two scripts do not overlap. -/
theorem scripts_apart : ∀ a ∈ scripts, ∀ b ∈ scripts, a = b ∨ a + 10 ≤ b ∨ b + 10 ≤ a := by
  decide

/-- The Latin digits are looked for in front of those of the other scripts. -/
theorem latinDigit?_eq (c : Char) :
    latinDigit? c = (scripts.find? fun first => first ≤ c.toNat && c.toNat < first + 10).map
      fun first => latin (c.toNat - first) := by
  have hlatin : c.isDigit = ('0'.toNat ≤ c.toNat && c.toNat < '0'.toNat + 10) := by
    rw [Char.isDigit, Bool.eq_iff_iff]
    simp [UInt32.le_iff_toNat_le]
    omega
  rw [latinDigit?, scripts, List.find?_cons, ← hlatin]
  cases hdigit : c.isDigit with
  | true =>
    rw [hlatin, Bool.and_eq_true, decide_eq_true_eq, decide_eq_true_eq] at hdigit
    rw [if_pos rfl, Option.map_some, latin, Nat.add_sub_cancel' hdigit.1, Char.ofNat_toNat]
  | false => rfl

/-- The digits of every script become Latin, and nothing else does. -/
theorem latinDigit?_eq_some_iff : latinDigit? c = some x ↔ ∃ k, IsDigit k c ∧ x = latin k := by
  rw [latinDigit?_eq, Option.map_eq_some_iff]
  constructor
  · rintro ⟨first, hfind, rfl⟩
    have hin := List.find?_some hfind
    rw [Bool.and_eq_true, decide_eq_true_eq, decide_eq_true_eq] at hin
    exact ⟨c.toNat - first, ⟨by omega, first, List.mem_of_find?_eq_some hfind, by omega⟩, rfl⟩
  · rintro ⟨k, ⟨hk, first, hfirst, hc⟩, rfl⟩
    cases hfind : scripts.find? fun first => first ≤ c.toNat && c.toNat < first + 10 with
    | none => simpa [hc, hk] using List.find?_eq_none.mp hfind first hfirst
    | some found =>
      have hin := List.find?_some hfind
      rw [Bool.and_eq_true, decide_eq_true_eq, decide_eq_true_eq] at hin
      have happart := scripts_apart found (List.mem_of_find?_eq_some hfind) first hfirst
      obtain rfl : found = first := by omega
      exact ⟨found, rfl, by rw [hc, Nat.add_sub_cancel_left]⟩

/-! ## Characters without a meaning, and tones -/

/-- The separators. -/
def separators : List Char :=
  ['(', ')', ' ', '.', '-']

theorem isSeparator_iff : isSeparator c = true ↔ c ∈ separators := by
  simp [isSeparator, separators, or_assoc]

/-- A character that only shows how a number is written. -/
def IsSkipped (c : Char) : Prop :=
  isSeparator c = true ∨ isFormat c = true

theorem separators_apart : ∀ n ∈ separators.map Char.toNat, ∀ first ∈ scripts,
    n < first ∨ first + 10 ≤ n := by
  decide

theorem formatRanges_apart : ∀ range ∈ formatRanges, ∀ first ∈ scripts,
    range.2 < first ∨ first + 10 ≤ range.1 := by
  decide

theorem IsSkipped.not_isDigit (h : IsSkipped c) : ¬ IsDigit k c := by
  rintro ⟨hk, first, hfirst, hc⟩
  rcases h with h | h
  · have hmem := List.mem_map_of_mem (f := Char.toNat) (isSeparator_iff.mp h)
    have happart := separators_apart c.toNat hmem first hfirst
    omega
  · obtain ⟨range, hrange, hin⟩ := List.any_eq_true.mp h
    rw [Bool.and_eq_true, decide_eq_true_eq, decide_eq_true_eq] at hin
    have happart := formatRanges_apart range hrange first hfirst
    omega

/-- The tone characters : pause, wait and extension, in both cases. -/
def tones : List Char :=
  ['p', 'P', 'w', 'W', 'x', 'X']

theorem isTone_iff : isTone c = true ↔ c ∈ tones := by
  refine ⟨fun h => ?_, List.all_eq_true.mp (by decide : tones.all isTone = true) c⟩
  by_cases hc : c.toNat < 128
  · have hascii : ∀ n < 128, isTone (Char.ofNat n) = true → Char.ofNat n ∈ tones := by decide
    rw [← Char.ofNat_toNat c] at h ⊢
    exact hascii c.toNat hc h
  · -- only Latin capitals have a lower case here
    have hlower : c.toLower = c := by
      refine dif_neg fun hupper => hc ?_
      have hle : c.toNat ≤ 'Z'.toNat := hupper.2
      exact Nat.lt_of_le_of_lt hle (by decide)
    rw [isTone, hlower] at h
    simp only [Bool.or_eq_true, decide_eq_true_eq] at h
    rcases h with (rfl | rfl) | rfl <;> decide

/-! ## What becomes of a character -/

theorem normalizeChar_of_isDigit (h : IsDigit k c) : normalizeChar c = some (latin k) := by
  rw [normalizeChar, latinDigit?_eq_some_iff.mpr ⟨k, h, rfl⟩]

theorem latinDigit?_of_not_isDigit (h : ∀ k, ¬ IsDigit k c) : latinDigit? c = none := by
  rw [Option.eq_none_iff_forall_ne_some]
  intro x hx
  obtain ⟨k, hk, -⟩ := latinDigit?_eq_some_iff.mp hx
  exact h k hk

theorem normalizeChar_of_isSkipped (h : IsSkipped c) : normalizeChar c = none := by
  rw [normalizeChar, latinDigit?_of_not_isDigit fun _ => h.not_isDigit]
  exact if_pos (by simpa [IsSkipped] using h)

theorem normalizeChar_of_other (hdigit : ∀ k, ¬ IsDigit k c) (hskip : ¬ IsSkipped c) :
    normalizeChar c = some c := by
  rw [normalizeChar, latinDigit?_of_not_isDigit hdigit]
  exact if_neg (by simpa [IsSkipped] using hskip)

/-- What a character becomes stays as it is. -/
theorem normalizeChar_of_eq_some (h : normalizeChar c = some x) : normalizeChar x = some x := by
  by_cases hdigit : ∃ k, IsDigit k c
  · obtain ⟨k, hk⟩ := hdigit
    obtain rfl : latin k = x := by simpa [normalizeChar_of_isDigit hk] using h
    exact normalizeChar_of_isDigit (isDigit_latin hk.1)
  · rw [not_exists] at hdigit
    by_cases hskip : IsSkipped c
    · simp [normalizeChar_of_isSkipped hskip] at h
    · obtain rfl : c = x := by simpa [normalizeChar_of_other hdigit hskip] using h
      exact h

theorem normalizeChar_of_mem_normalize (h : x ∈ normalize number) : normalizeChar x = some x := by
  obtain ⟨c, -, hc⟩ := List.mem_filterMap.mp h
  exact normalizeChar_of_eq_some hc

theorem not_isSkipped_of_mem_normalize (h : x ∈ normalize number) : ¬ IsSkipped x := by
  intro hskip
  have hself := normalizeChar_of_mem_normalize h
  rw [normalizeChar_of_isSkipped hskip] at hself
  cases hself

/-- A tone is kept. -/
theorem normalizeChar_of_mem_tones (h : c ∈ tones) : normalizeChar c = some c := by
  have hall : (tones.all fun t => normalizeChar t = some t) = true := by decide
  exact of_decide_eq_true (List.all_eq_true.mp hall c h)

/-! ## Numbers -/

/-- The characters in front of the first tone. -/
def dialled (number : List Char) : List Char :=
  (normalize number).takeWhile fun c => !isTone c

theorem localNumber_eq (length : Nat) (number : List Char) :
    localNumber length number = (dialled number).drop ((dialled number).length - length) :=
  rfl

/-- One way to write a number another way. -/
inductive Rewrites : List Char → List Char → Prop where
  /-- With a separator or an invisible character more. -/
  | skipped (front back : List Char) {c : Char} (h : IsSkipped c) :
    Rewrites (front ++ back) (front ++ c :: back)
  /-- With a digit of another script. -/
  | digit (front back : List Char) {k : Nat} {c d : Char} (hc : IsDigit k c) (hd : IsDigit k d) :
    Rewrites (front ++ c :: back) (front ++ d :: back)
  /-- With tones behind it. -/
  | tones (number rest : List Char) {c : Char} (h : c ∈ tones) :
    Rewrites number (number ++ c :: rest)

theorem normalize_append (number other : List Char) :
    normalize (number ++ other) = normalize number ++ normalize other :=
  List.filterMap_append

theorem normalize_cons (c : Char) (number : List Char) :
    normalize (c :: number) = (normalizeChar c).toList ++ normalize number := by
  cases h : normalizeChar c <;> simp [normalize, h]

/-- Nothing behind a tone is dialled. -/
theorem dialled_append_tone (number rest : List Char) (h : c ∈ tones) :
    dialled (number ++ c :: rest) = dialled number := by
  have hstop : (normalize (c :: rest)).takeWhile (fun c => !isTone c) = [] := by
    rw [normalize_cons, normalizeChar_of_mem_tones h]
    exact List.takeWhile_cons_of_neg (by simp [isTone_iff.mpr h])
  rw [dialled, normalize_append, List.takeWhile_append, hstop, List.append_nil, dialled]
  split
  · rename_i hall
    exact ((List.takeWhile_prefix _).eq_of_length hall).symm
  · rfl

/-- However a number is written, the same is dialled. -/
theorem dialled_eq_of_rewrites (h : Rewrites number other) : dialled number = dialled other := by
  cases h with
  | skipped front back hc =>
    simp [dialled, normalize_append, normalize_cons, normalizeChar_of_isSkipped hc]
  | digit front back hc hd =>
    simp [dialled, normalize_append, normalize_cons, normalizeChar_of_isDigit hc,
      normalizeChar_of_isDigit hd]
  | tones _ rest hc => exact (dialled_append_tone number rest hc).symm

/-- However a number is written, its local number is the same. -/
theorem localNumber_eq_of_rewrites (h : Relation.EqvGen Rewrites number other) (length : Nat) :
    localNumber length number = localNumber length other := by
  induction h with
  | rel _ _ h => rw [localNumber_eq, localNumber_eq, dialled_eq_of_rewrites h]
  | refl _ => rfl
  | symm _ _ _ ih => exact ih.symm
  | trans _ _ _ _ _ ihl ihr => exact ihl.trans ihr

/-! ## Local numbers -/

/-- The local number of a number, of at most `length` characters. -/
structure IsLocalNumber (length : Nat) (number result : List Char) : Prop where
  /-- It is what stands in front of the first tone, or the end of that when it has full length. -/
  split : ∃ front rest, normalize number = front ++ result ++ rest ∧
    (∀ c ∈ front ++ result, c ∉ tones) ∧ (∀ c ∈ rest.head?, c ∈ tones) ∧
    (front = [] ∨ result.length = length)
  /-- It is not longer than asked for. -/
  length_le : result.length ≤ length
  /-- It has no separators, no invisible characters and no tones. -/
  free : ∀ c ∈ result, c ∉ separators ∧ isFormat c = false ∧ c ∉ tones
  /-- It is its own local number. -/
  self : localNumber length result = result

theorem not_mem_tones_of_mem_dialled (h : x ∈ dialled number) : x ∉ tones := by
  have htone := List.mem_takeWhile_imp h
  rw [← isTone_iff]
  simpa using htone

/-- A number without anything to leave out or to change is dialled as it is. -/
theorem dialled_eq_self (hkept : ∀ c ∈ number, normalizeChar c = some c)
    (htones : ∀ c ∈ number, c ∉ tones) : dialled number = number := by
  have hnormal : normalize number = number :=
    (List.filterMap_congr hkept).trans List.filterMap_some
  rw [dialled, hnormal, List.takeWhile_eq_self_iff]
  intro c hc
  have htone := htones c hc
  rw [← isTone_iff] at htone
  simpa using htone

/-- What is dialled stands in front of the first tone. -/
theorem exists_normalize_eq (number : List Char) :
    ∃ rest, normalize number = dialled number ++ rest ∧ ∀ c ∈ rest.head?, c ∈ tones := by
  refine ⟨(normalize number).dropWhile fun c => !isTone c, List.takeWhile_append_dropWhile.symm, ?_⟩
  intro c hc
  have hstop := List.head?_dropWhile_not (fun c => !isTone c) (normalize number)
  rw [hc] at hstop
  exact isTone_iff.mp (by simpa using hstop)

theorem localNumber_suffix (length : Nat) (number : List Char) :
    localNumber length number <:+ dialled number :=
  List.drop_suffix _ _

theorem length_localNumber (length : Nat) (number : List Char) :
    (localNumber length number).length = min length (dialled number).length := by
  have hdrop : (localNumber length number).length =
      (dialled number).length - ((dialled number).length - length) := List.length_drop
  omega

theorem isLocalNumber_localNumber (length : Nat) (number : List Char) :
    IsLocalNumber length number (localNumber length number) := by
  have hsuffix := localNumber_suffix length number
  have hlength := length_localNumber length number
  have htones : ∀ c ∈ localNumber length number, c ∉ tones := fun c hc =>
    not_mem_tones_of_mem_dialled (hsuffix.mem hc)
  have hmem : ∀ c ∈ localNumber length number, c ∈ normalize number := fun c hc =>
    (List.takeWhile_prefix _).mem (hsuffix.mem hc)
  constructor
  · obtain ⟨rest, hrest, hhead⟩ := exists_normalize_eq number
    obtain ⟨front, hfront⟩ := hsuffix
    refine ⟨front, rest, hfront.symm ▸ hrest, ?_, hhead, ?_⟩
    · rw [hfront]
      exact fun c => not_mem_tones_of_mem_dialled
    · have hsum := congrArg List.length hfront
      rw [List.length_append] at hsum
      rw [← List.length_eq_zero_iff]
      omega
  · omega
  · intro c hc
    have hskip := not_isSkipped_of_mem_normalize (hmem c hc)
    rw [IsSkipped, not_or, isSeparator_iff, Bool.not_eq_true] at hskip
    exact ⟨hskip.1, hskip.2, htones c hc⟩
  · have hself : dialled (localNumber length number) = localNumber length number :=
      dialled_eq_self (fun c hc => normalizeChar_of_mem_normalize (hmem c hc)) htones
    refine (localNumber_suffix length _).eq_of_length ?_ |>.trans hself
    rw [length_localNumber, hself]
    omega

end ContactGraph.Phone
