import ContactGraph.Text.Case
import Mathlib.Data.Nat.Bitwise

/-!
# The case of single letters

The tables map stretches of codes. A set of codes is kept as the number that has these bits, so that
the tables can be compared as a whole : no code that lower case maps to is mapped again
(`lowerChar_of_mem`), and of the letters with an upper case only four digraphs have a lower case as
well. The lower case of the upper case of a letter is its own lower case, except where the capital
is written with several letters, as that of ß, or belongs to another letter, as that of the dotless
i (`lower_upper_iff`).
-/

namespace ContactGraph.Text

/-! ## Sets of codes -/

section Codes

variable {a b n : Nat} {sets : List Nat}

/-- The even codes below `2 ^ (k + 1)`. -/
def evens : Nat → Nat
  | 0 => 1
  | k + 1 => evens k ||| evens k <<< 2 ^ (k + 1)

/-- The codes that are in some of the sets. -/
def unite (sets : List Nat) : Nat :=
  sets.foldr (· ||| ·) 0

theorem testBit_evens {k : Nat} (hn : n < 2 ^ (k + 1)) (heven : n % 2 = 0) :
    (evens k).testBit n = true := by
  induction k generalizing n with
  | zero =>
    rw [show n = 0 by omega]
    rfl
  | succ k ih =>
    rw [evens, Nat.testBit_or, Bool.or_eq_true, Nat.testBit_shiftLeft, Bool.and_eq_true,
      decide_eq_true_iff]
    rw [Nat.pow_succ] at hn
    have hpow : 2 ^ (k + 1) = 2 * 2 ^ k := by rw [Nat.pow_succ, Nat.mul_comm]
    by_cases hlow : n < 2 ^ (k + 1)
    · exact .inl (ih hlow heven)
    · exact .inr ⟨by omega, ih (by omega) (by omega)⟩

theorem testBit_unite (ha : a ∈ sets) (h : a.testBit n = true) : (unite sets).testBit n = true := by
  induction sets with
  | nil => cases ha
  | cons b sets ih =>
    rw [unite, List.foldr_cons, Nat.testBit_or, Bool.or_eq_true]
    rcases List.mem_cons.mp ha with rfl | ha
    · exact .inl h
    · exact .inr (ih ha)

theorem testBit_eq_false (h : a &&& b = 0) (ha : a.testBit n = true) : b.testBit n = false := by
  have hand := congrArg (Nat.testBit · n) h
  simpa [ha] using hand

end Codes

namespace CaseRange

variable {q r : CaseRange} {n : Nat}

/-- What a code of the range is mapped to. -/
def image (r : CaseRange) (n : Nat) : Nat :=
  (n + r.shift).toNat

/-- The codes of the range, counted from its first. -/
def shape (r : CaseRange) : Nat :=
  if r.stride = 2 ∧ r.last < 2 ^ 18 then (2 ^ (r.last + 1 - r.first) - 1) &&& evens 17
  else 2 ^ (r.last + 1 - r.first) - 1

/-- The codes of the range. -/
def codes (r : CaseRange) : Nat :=
  r.shape <<< r.first

/-- The codes the range maps to. -/
def imageCodes (r : CaseRange) : Nat :=
  r.shape <<< r.image r.first

/-- Whether the range maps to scalar values. -/
def isSound (r : CaseRange) : Bool :=
  decide (0 ≤ r.first + r.shift) &&
    (Nat.blt (r.image r.last) 0xd800 ||
      (Nat.blt 0xdfff (r.image r.first) && Nat.blt (r.image r.last) 0x110000))

/-- Whether `q` leads back from all that `r` maps to. -/
def inverts (q r : CaseRange) : Bool :=
  Nat.ble (r.image r.last) q.last && (Nat.ble q.first (r.image r.first) &&
    (decide (q.shift = -r.shift) && (Nat.beq q.stride 1 || (Nat.beq q.stride 2 &&
      (Nat.beq r.stride 2 || Nat.beq r.first r.last) &&
      Nat.beq ((r.image r.first + q.first) % 2) 0))))

theorem covers_iff :
    r.covers n = true ↔ r.first ≤ n ∧ n ≤ r.last ∧ (n - r.first) % r.stride = 0 := by
  simp [covers, and_assoc]

theorem testBit_shape (hn : r.covers n = true) : r.shape.testBit (n - r.first) = true := by
  obtain ⟨hfirst, hlast, hstride⟩ := covers_iff.mp hn
  have hall : (2 ^ (r.last + 1 - r.first) - 1).testBit (n - r.first) = true := by
    rw [Nat.testBit_two_pow_sub_one, decide_eq_true_iff]
    omega
  rw [shape]
  split
  · rename_i htwo
    rw [htwo.1] at hstride
    rw [Nat.testBit_and, hall, testBit_evens (by omega) hstride, Bool.and_self]
  · exact hall

theorem testBit_codes (hn : r.covers n = true) : r.codes.testBit n = true := by
  rw [codes, Nat.testBit_shiftLeft, testBit_shape hn, Bool.and_true, decide_eq_true_iff]
  exact (covers_iff.mp hn).1

/-- The image keeps its place in the stretch. -/
theorem image_eq_add (hsound : r.isSound = true) (hn : r.first ≤ n) :
    r.image n = r.image r.first + (n - r.first) := by
  simp only [isSound, Bool.and_eq_true, decide_eq_true_eq] at hsound
  have := hsound.1
  simp only [image]
  omega

theorem image_le_image_last (hn : n ≤ r.last) : r.image n ≤ r.image r.last := by
  simp only [image]
  omega

theorem testBit_imageCodes (hsound : r.isSound = true) (hn : r.covers n = true) :
    r.imageCodes.testBit (r.image n) = true := by
  have himage := image_eq_add hsound (covers_iff.mp hn).1
  rw [imageCodes, Nat.testBit_shiftLeft, himage, Nat.add_sub_cancel_left, testBit_shape hn,
    Bool.and_true, decide_eq_true_iff]
  exact Nat.le_add_right _ _

theorem toNat_ofNat_image (hsound : r.isSound = true) (hn : r.covers n = true) :
    (Char.ofNat (r.image n)).toNat = r.image n := by
  obtain ⟨hfirst, hlast, -⟩ := covers_iff.mp hn
  have himage := image_eq_add hsound hfirst
  have hle := image_le_image_last hlast
  simp only [isSound, Bool.and_eq_true, Bool.or_eq_true, Nat.blt_eq] at hsound
  have hvalid : (r.image n).isValidChar := by
    rcases hsound.2 with hlow | ⟨hhigh, htop⟩
    · exact .inl (by omega)
    · exact .inr ⟨by omega, by omega⟩
  rw [Char.ofNat, dif_pos hvalid]
  rfl

/-- What leads back covers the image, and takes it to where it came from. -/
theorem covers_image (h : q.inverts r = true) (hsound : r.isSound = true)
    (hn : r.covers n = true) : q.covers (r.image n) = true ∧ q.image (r.image n) = n := by
  obtain ⟨hfirst, hlast, hplace⟩ := covers_iff.mp hn
  have himage := image_eq_add hsound hfirst
  have hle := image_le_image_last hlast
  simp only [inverts, Bool.and_eq_true, Bool.or_eq_true, Nat.ble_eq, Nat.beq_eq,
    decide_eq_true_eq] at h
  obtain ⟨hhi, hlo, hshift, hstride⟩ := h
  refine ⟨covers_iff.mpr ⟨by omega, by omega, ?_⟩, ?_⟩
  · rcases hstride with hone | ⟨⟨htwo, hsteady⟩, heven⟩
    · rw [hone, Nat.mod_one]
    · have hplaceEven : (n - r.first) % 2 = 0 := by
        rcases hsteady with hpairs | hsingle
        · rwa [hpairs] at hplace
        · rw [show n - r.first = 0 by omega]
      rw [htwo]
      omega
  · simp only [isSound, Bool.and_eq_true, decide_eq_true_eq] at hsound
    have := hsound.1
    simp only [image, hshift]
    omega

/-- Whether each range ends in front of the next. -/
def ascending (lo : Nat) : List CaseRange → Bool
  | [] => true
  | r :: rs => Nat.ble lo r.first && Nat.ble r.first r.last && ascending (r.last + 1) rs

theorem le_first {lo : Nat} {rs : List CaseRange} (h : ascending lo rs = true) :
    ∀ q ∈ rs, lo ≤ q.first := by
  induction rs generalizing lo with
  | nil => simp
  | cons r rs ih =>
    simp only [ascending, Bool.and_eq_true, Nat.ble_eq] at h
    obtain ⟨⟨hlo, hle⟩, hrest⟩ := h
    rintro q (_ | ⟨_, hq⟩)
    · exact hlo
    · have := ih hrest q hq
      omega

/-- In ascending ranges the one that covers a code is the one that is found. -/
theorem find?_eq_some {lo : Nat} {rs : List CaseRange} (h : ascending lo rs = true)
    (hq : q ∈ rs) (hn : q.covers n = true) : rs.find? (·.covers n) = some q := by
  induction rs generalizing lo with
  | nil => cases hq
  | cons r rs ih =>
    simp only [ascending, Bool.and_eq_true] at h
    rcases List.mem_cons.mp hq with rfl | hq
    · simp only [List.find?_cons, hn]
    · have hbehind := le_first h.2 q hq
      have hmiss : r.covers n = false := by
        rw [← Bool.not_eq_true, covers_iff]
        have := (covers_iff.mp hn).1
        omega
      simp only [List.find?_cons, hmiss]
      exact ih h.2 hq

end CaseRange

/-! ## Mapping a letter -/

section Mapping

variable {ranges : List CaseRange} {specials : List (Nat × List Nat)} {c : Char}

theorem mem_of_lookup_eq_some {n : Nat} {codes : List Nat} (h : specials.lookup n = some codes) :
    (n, codes) ∈ specials := by
  obtain ⟨front, back, rfl, -⟩ := List.lookup_eq_some_iff.mp h
  exact List.mem_append_right front List.mem_cons_self

theorem mapCase_of_lookup {codes : List Nat} (h : specials.lookup c.toNat = some codes) :
    mapCase ranges specials c = codes.map Char.ofNat := by
  rw [mapCase, h]

/-- A letter that is no exception stays as it is, or is moved with its stretch. -/
theorem mapCase_cases (ranges : List CaseRange) (h : specials.lookup c.toNat = none) :
    mapCase ranges specials c = [c] ∨
      ∃ r ∈ ranges, r.covers c.toNat = true ∧
        mapCase ranges specials c = [Char.ofNat (r.image c.toNat)] := by
  rw [mapCase, h]
  cases hfind : ranges.find? (·.covers c.toNat) with
  | none => exact .inl rfl
  | some r =>
    have hcovers := List.find?_some hfind
    exact .inr ⟨r, List.mem_of_find?_eq_some hfind, hcovers, rfl⟩

theorem mapCase_eq_self (h : specials.lookup c.toNat = none)
    (hmiss : ∀ r ∈ ranges, r.covers c.toNat = false) : mapCase ranges specials c = [c] := by
  rcases mapCase_cases ranges h with hself | ⟨r, hr, hcovers, -⟩
  · exact hself
  · rw [hmiss r hr] at hcovers
    cases hcovers

theorem mapCase_of_covers {lo : Nat} {r : CaseRange} (h : specials.lookup c.toNat = none)
    (hranges : CaseRange.ascending lo ranges = true) (hr : r ∈ ranges)
    (hcovers : r.covers c.toNat = true) :
    mapCase ranges specials c = [Char.ofNat (r.image c.toNat)] := by
  rw [mapCase, h, CaseRange.find?_eq_some hranges hr hcovers]
  rfl

/-- The codes of the exceptions. -/
def specialCodes (specials : List (Nat × List Nat)) : Nat :=
  unite (specials.map fun p => 1 <<< p.1)

theorem lookup_eq_none {n : Nat} (h : (specialCodes specials).testBit n = false) :
    specials.lookup n = none := by
  cases hspecial : specials.lookup n with
  | none => rfl
  | some codes =>
    have hmem : 1 <<< n ∈ specials.map fun p => 1 <<< p.1 :=
      List.mem_map_of_mem (mem_of_lookup_eq_some hspecial)
    have hbit : (1 <<< n).testBit n = true := by simp
    rw [specialCodes, testBit_unite hmem hbit] at h
    cases h

end Mapping

/-! ## The tables -/

section Tables

variable {c d : Char} {q r : CaseRange}

/-- The letters that have a lower case. -/
def lowerCodes : Nat :=
  unite (lowerRanges.map CaseRange.codes) ||| specialCodes lowerSpecials

/-- The digraphs with one capital letter, which have an upper and a lower case. -/
def titleLetters : List Nat := [0x1c5, 0x1c8, 0x1cb, 0x1f2]

/-- The other letters that have an upper case. -/
def upperCodes : Nat :=
  unite ((upperRanges.filter fun r => !titleLetters.contains r.first).map CaseRange.codes)

/-- Letters whose capital belongs to another letter, as stretches of codes. -/
def sharedCapitals : List (Nat × Nat) := [
    (0xb5, 0xb5), (0x131, 0x131), (0x17f, 0x17f), (0x345, 0x345), (0x3c2, 0x3c2), (0x3d0, 0x3d1),
    (0x3d5, 0x3d6), (0x3f0, 0x3f1), (0x3f5, 0x3f5), (0x1c80, 0x1c88), (0x1e9b, 0x1e9b),
    (0x1fbe, 0x1fbe)]

/-- How the tables of lower and upper case fit together. -/
structure TablesFit : Prop where
  /-- The stretches of lower case stand in order. -/
  ascending : CaseRange.ascending 0 lowerRanges = true
  /-- Lower case is a scalar value. -/
  lowerSound : lowerRanges.all CaseRange.isSound = true
  /-- Upper case is a scalar value. -/
  upperSound : upperRanges.all CaseRange.isSound = true
  /-- What has a lower case is no lower case. -/
  lowerKept : unite (lowerRanges.map CaseRange.imageCodes) &&& lowerCodes = 0
  /-- The one exception of lower case is mapped to letters that are not mapped again. -/
  lowerSpecial : ∀ p ∈ lowerSpecials, p.1 = 0x130 ∧
    ∀ code ∈ p.2, lowerCodes.testBit (Char.ofNat code).toNat = false
  /-- What has an upper case has no lower case, but for the digraphs. -/
  upperKept : upperCodes &&& lowerCodes = 0
  /-- No upper case is the exception of lower case. -/
  upperPlain : unite (upperRanges.map CaseRange.imageCodes) &&& specialCodes lowerSpecials = 0
  /-- A stretch with an upper case is led back to, unless its capitals are shared. -/
  upperInverted : (upperRanges.all fun r =>
    bif titleLetters.contains r.first then Nat.beq r.first r.last
    else (lowerRanges.find? fun q => Nat.ble (r.image r.last) q.last).any (·.inverts r) ||
      sharedCapitals.any fun p => Nat.ble p.1 r.first && Nat.ble r.last p.2) = true
  /-- Exceptions of upper case have several capitals, and those behind the first are no sigma. -/
  upperSpecial : (upperSpecials.all fun p =>
    Nat.ble 2 p.2.length && !(p.2.tail.map Char.ofNat).contains 'Σ') = true
  /-- The digraphs come back from upper case. -/
  title : ∀ code ∈ titleLetters,
    (upperChar (Char.ofNat code)).flatMap lowerChar = lowerChar (Char.ofNat code)
  /-- Letters with shared capitals have no lower case and do not come back. -/
  shared : ∀ p ∈ sharedCapitals, ∀ code ∈ List.range' p.1 (p.2 + 1 - p.1),
    lowerCodes.testBit code = false ∧
      (upperChar (Char.ofNat code)).flatMap lowerChar ≠ [Char.ofNat code]

theorem tablesFit : TablesFit where
  ascending := by decide +kernel
  lowerSound := by decide +kernel
  upperSound := by decide +kernel
  lowerKept := by decide +kernel
  lowerSpecial := by decide +kernel
  upperKept := by decide +kernel
  upperPlain := by decide +kernel
  upperInverted := by decide +kernel
  upperSpecial := by decide +kernel
  title := by decide +kernel
  shared := by decide +kernel

theorem lowerChar_eq_self (h : lowerCodes.testBit c.toNat = false) : lowerChar c = [c] := by
  rw [lowerCodes, Nat.testBit_or, Bool.or_eq_false_iff] at h
  refine mapCase_eq_self (lookup_eq_none h.2) fun r hr => Bool.eq_false_iff.mpr fun hcovers => ?_
  rw [testBit_unite (List.mem_map_of_mem hr) (CaseRange.testBit_codes hcovers)] at h
  cases h.1

/-- Lower case is not mapped again. -/
theorem lowerChar_of_mem (h : d ∈ lowerChar c) : lowerChar d = [d] := by
  cases hspecial : lowerSpecials.lookup c.toNat with
  | some codes =>
    rw [lowerChar, mapCase_of_lookup hspecial] at h
    obtain ⟨code, hcode, rfl⟩ := List.mem_map.mp h
    have hkept := (tablesFit.lowerSpecial _ (mem_of_lookup_eq_some hspecial)).2
    exact lowerChar_eq_self (hkept code hcode)
  | none =>
    rcases mapCase_cases lowerRanges hspecial with hself | ⟨r, hr, hcovers, hmapped⟩
    · rw [lowerChar, hself, List.mem_singleton] at h
      rw [h, lowerChar, hself]
    · rw [lowerChar, hmapped, List.mem_singleton] at h
      have hsound := List.all_eq_true.mp tablesFit.lowerSound r hr
      have hbit : (unite (lowerRanges.map CaseRange.imageCodes)).testBit (r.image c.toNat) = true :=
        testBit_unite (List.mem_map_of_mem hr) (CaseRange.testBit_imageCodes hsound hcovers)
      refine lowerChar_eq_self ?_
      rw [h, CaseRange.toNat_ofNat_image hsound hcovers]
      exact testBit_eq_false tablesFit.lowerKept hbit

theorem lowerChar_ne_nil (c : Char) : lowerChar c ≠ [] := by
  have hspecials : ∀ e ∈ lowerSpecials, e.2 ≠ [] := by decide
  cases hspecial : lowerSpecials.lookup c.toNat with
  | some codes =>
    rw [lowerChar, mapCase_of_lookup hspecial]
    exact fun h => hspecials _ (mem_of_lookup_eq_some hspecial) (List.map_eq_nil_iff.mp h)
  | none =>
    rcases mapCase_cases lowerRanges hspecial with hself | ⟨r, -, -, hmapped⟩
    · rw [lowerChar, hself]
      exact List.cons_ne_nil _ _
    · rw [lowerChar, hmapped]
      exact List.cons_ne_nil _ _

/-- One letter has one letter as its lower case, but for the dotted capital I. -/
theorem length_lowerChar (h : lowerSpecials.lookup c.toNat = none) : (lowerChar c).length = 1 := by
  rcases mapCase_cases lowerRanges h with hself | ⟨r, -, -, hmapped⟩
  · rw [lowerChar, hself, List.length_singleton]
  · rw [lowerChar, hmapped, List.length_singleton]

theorem length_le_length_flatMap_lowerChar (cs : List Char) :
    cs.length ≤ (cs.flatMap lowerChar).length := by
  induction cs with
  | nil => exact Nat.zero_le _
  | cons c cs ih =>
    have hpos := List.length_pos_iff.mpr (lowerChar_ne_nil c)
    rw [List.flatMap_cons, List.length_append, List.length_cons]
    omega

/-! ## Upper case and back -/

/-- Whether the capital of a letter is a single one and belongs to no other letter. -/
def hasOwnCapital (c : Char) : Bool :=
  (upperSpecials.lookup c.toNat).isNone && !inRanges sharedCapitals c.toNat

/-- Several capitals stay several in lower case. -/
theorem lower_upper_of_lookup {codes : List Nat} (h : upperSpecials.lookup c.toNat = some codes) :
    (upperChar c).flatMap lowerChar ≠ lowerChar c := by
  have hseveral : 2 ≤ codes.length := by
    have hcodes := List.all_eq_true.mp tablesFit.upperSpecial _ (mem_of_lookup_eq_some h)
    rw [Bool.and_eq_true, Nat.ble_eq] at hcodes
    exact hcodes.1
  have hlower : lowerSpecials.lookup c.toNat = none := by
    cases hspecial : lowerSpecials.lookup c.toNat with
    | none => rfl
    | some lower =>
      have hdotted : c.toNat = 0x130 :=
        (tablesFit.lowerSpecial _ (mem_of_lookup_eq_some hspecial)).1
      have hnone : upperSpecials.lookup 0x130 = none := by decide
      rw [hdotted, hnone] at h
      cases h
  intro heq
  have hlength := length_le_length_flatMap_lowerChar (upperChar c)
  rw [heq, length_lowerChar hlower, upperChar, mapCase_of_lookup h, List.length_map] at hlength
  omega

/-- A capital that belongs to another letter leads to that letter. -/
theorem lower_upper_of_shared (h : inRanges sharedCapitals c.toNat = true) :
    (upperChar c).flatMap lowerChar ≠ lowerChar c := by
  obtain ⟨p, hp, hrange⟩ := List.any_eq_true.mp h
  rw [Bool.and_eq_true, decide_eq_true_eq, decide_eq_true_eq] at hrange
  obtain ⟨hkept, hlost⟩ := tablesFit.shared p hp c.toNat
    (List.mem_range'_1.mpr ⟨hrange.1, by omega⟩)
  rwa [Char.ofNat_toNat, ← lowerChar_eq_self hkept] at hlost

/-- What leads back from a stretch with an upper case gives the lower case of the upper case. -/
theorem lowerChar_image (hr : r ∈ upperRanges) (hcovers : r.covers c.toNat = true)
    (hq : q ∈ lowerRanges) (hqr : q.inverts r = true) :
    lowerChar (Char.ofNat (r.image c.toNat)) = [c] := by
  have hsound := List.all_eq_true.mp tablesFit.upperSound r hr
  obtain ⟨hqcovers, hback⟩ := CaseRange.covers_image hqr hsound hcovers
  have himage := CaseRange.toNat_ofNat_image hsound hcovers
  have hbit : (unite (upperRanges.map CaseRange.imageCodes)).testBit (r.image c.toNat) = true :=
    testBit_unite (List.mem_map_of_mem hr) (CaseRange.testBit_imageCodes hsound hcovers)
  have hplain : lowerSpecials.lookup (Char.ofNat (r.image c.toNat)).toNat = none := by
    rw [himage]
    exact lookup_eq_none (testBit_eq_false tablesFit.upperPlain hbit)
  rw [lowerChar, mapCase_of_covers hplain tablesFit.ascending hq (by rwa [himage]), himage, hback,
    Char.ofNat_toNat]

/-- A letter with an upper case is its own lower case, but for the digraphs. -/
theorem lowerChar_of_upper (hr : r ∈ upperRanges) (htitle : titleLetters.contains r.first = false)
    (hcovers : r.covers c.toNat = true) : lowerChar c = [c] := by
  have hmem : r ∈ upperRanges.filter fun r => !titleLetters.contains r.first :=
    List.mem_filter.mpr ⟨hr, by rw [htitle]; rfl⟩
  have hbit : upperCodes.testBit c.toNat = true :=
    testBit_unite (List.mem_map_of_mem hmem) (CaseRange.testBit_codes hcovers)
  exact lowerChar_eq_self (testBit_eq_false tablesFit.upperKept hbit)

/-- Lower case leads back from the upper case of every other letter. -/
theorem lower_upper_of_hasOwnCapital (h : hasOwnCapital c = true) :
    (upperChar c).flatMap lowerChar = lowerChar c := by
  rw [hasOwnCapital, Bool.and_eq_true, Option.isNone_iff_eq_none, Bool.not_eq_true'] at h
  obtain ⟨hspecial, hshared⟩ := h
  rcases mapCase_cases upperRanges hspecial with hself | ⟨r, hr, hcovers, hmapped⟩
  · rw [upperChar, hself, List.flatMap_singleton]
  obtain ⟨hfirst, hlast, -⟩ := CaseRange.covers_iff.mp hcovers
  have htable := List.all_eq_true.mp tablesFit.upperInverted r hr
  cases htitle : titleLetters.contains r.first with
  | true =>
    rw [htitle, cond_true, Nat.beq_eq] at htable
    rw [← Char.ofNat_toNat c, show c.toNat = r.first by omega]
    exact tablesFit.title r.first (List.contains_iff_mem.mp htitle)
  | false =>
    rw [htitle, cond_false, Bool.or_eq_true] at htable
    rcases htable with hinverts | hlost
    · obtain ⟨q, hfind, hqr⟩ := (Option.any_eq_true _ _).mp hinverts
      rw [upperChar, hmapped, List.flatMap_singleton, lowerChar_of_upper hr htitle hcovers,
        lowerChar_image hr hcovers (List.mem_of_find?_eq_some hfind) hqr]
    · -- The whole stretch is one of those with shared capitals, and so is the letter.
      obtain ⟨p, hp, hrange⟩ := List.any_eq_true.mp hlost
      rw [Bool.and_eq_true, Nat.ble_eq, Nat.ble_eq] at hrange
      have hin : inRanges sharedCapitals c.toNat = true := by
        refine List.any_eq_true.mpr ⟨p, hp, ?_⟩
        rw [Bool.and_eq_true, decide_eq_true_eq, decide_eq_true_eq]
        omega
      rw [hin] at hshared
      cases hshared

/-- The lower case of the upper case of a letter is its own lower case just when its capital is a
single one and belongs to no other letter. -/
theorem lower_upper_iff :
    (upperChar c).flatMap lowerChar = lowerChar c ↔ hasOwnCapital c = true := by
  refine ⟨fun h => ?_, lower_upper_of_hasOwnCapital⟩
  rw [hasOwnCapital, Bool.and_eq_true, Option.isNone_iff_eq_none, Bool.not_eq_true']
  constructor
  · cases hspecial : upperSpecials.lookup c.toNat with
    | none => rfl
    | some codes => exact absurd h (lower_upper_of_lookup hspecial)
  · exact eq_false_of_ne_true fun hshared => lower_upper_of_shared hshared h

end Tables

end ContactGraph.Text
