/-!
# White space

The Unicode white space characters and trimming. `trim` drops white space at both ends and nothing
in between.
-/

namespace ContactGraph.Text

/-- Unicode white space. -/
def isBlank (c : Char) : Bool :=
  let code := c.toNat
  (9 ≤ code && code ≤ 13) || code = 0x20 || code = 0x85 || code = 0xa0 || code = 0x1680
    || (0x2000 ≤ code && code ≤ 0x200a) || code = 0x2028 || code = 0x2029 || code = 0x202f
    || code = 0x205f || code = 0x3000

/-- The text from its first character that is not white space. -/
def dropBlank (cs : List Char) : List Char :=
  cs.dropWhile isBlank

/-- The text without white space at either end. -/
def trim (cs : List Char) : List Char :=
  (dropBlank (dropBlank cs).reverse).reverse

end ContactGraph.Text
