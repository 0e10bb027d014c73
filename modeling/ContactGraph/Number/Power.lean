/-!
# Powers

The powers of two that bound machine words and scale binary fractions, and the powers of ten that
place decimal digits.
-/

namespace ContactGraph.Number

/-- Two to the `n`. -/
def pow2 (n : Nat) : Nat :=
  Nat.pow 2 n

/-- Ten to the `n`. -/
def pow10 (n : Nat) : Nat :=
  Nat.pow 10 n

end ContactGraph.Number
