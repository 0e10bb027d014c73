import ContactGraph.Text.CaseTable

/-!
# Letter case

Full Unicode case mapping. `lowercase` maps a whole text and writes a capital sigma that ends a word
as final sigma; `capitalize` upper-cases the first character and lower-cases the others one by one,
without that rule.
-/

namespace ContactGraph.Text

/-- Whether the range maps `code`. -/
def CaseRange.covers (r : CaseRange) (code : Nat) : Bool :=
  r.first ≤ code && code ≤ r.last && (code - r.first) % r.stride = 0

/-- The mapping of one character under a table of ranges and a table of exceptions. -/
def mapCase (ranges : List CaseRange) (specials : List (Nat × List Nat)) (c : Char) : List Char :=
  match specials.lookup c.toNat with
  | some codes => codes.map Char.ofNat
  | none =>
    match ranges.find? (·.covers c.toNat) with
    | some r => [Char.ofNat (c.toNat + r.shift).toNat]
    | none => [c]

/-- Lower case of a single character. -/
def lowerChar (c : Char) : List Char :=
  mapCase lowerRanges lowerSpecials c

/-- Upper case of a single character. -/
def upperChar (c : Char) : List Char :=
  mapCase upperRanges upperSpecials c

/-- Whether the first character that is not case-ignorable is a cased letter. -/
def leadsCased : List Char → Bool
  | [] => false
  | c :: cs =>
    if inRanges caseIgnorableRanges c.toNat then leadsCased cs else inRanges casedRanges c.toNat

/-- Lower case of `cs`, where `before` holds the characters in front of it, the nearest first. -/
def lowercaseAfter (before : List Char) : List Char → List Char
  | [] => []
  | c :: cs =>
    let lower :=
      if c = 'Σ' then (if leadsCased before && !leadsCased cs then ['ς'] else ['σ'])
      else lowerChar c
    lower ++ lowercaseAfter (c :: before) cs

/-- Full lower case of a text. -/
def lowercase (s : String) : String :=
  String.ofList (lowercaseAfter [] s.toList)

/-- First character in upper case, all others in lower case : `home` becomes `Home`. -/
def capitalize (s : String) : String :=
  match s.toList with
  | [] => ""
  | c :: cs => String.ofList (upperChar c ++ cs.flatMap lowerChar)

end ContactGraph.Text
