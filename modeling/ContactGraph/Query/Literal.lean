/-!
# Quoted literals

A text stands in a query between double quotes. The double quote, the backslash and the common
control characters are written with a backslash, the other control characters by four hexadecimal
digits, so that no text can end its literal.
-/

namespace ContactGraph.Query

/-- A hexadecimal digit in upper case. -/
def hexDigit (n : Nat) : Char :=
  (Nat.digitChar n).toUpper

/-- Four hexadecimal digits. -/
def hexDigits (n : Nat) : List Char :=
  [hexDigit (n / 4096 % 16), hexDigit (n / 256 % 16), hexDigit (n / 16 % 16), hexDigit (n % 16)]

/-- How one character stands in a literal. -/
def escapeChar (c : Char) : List Char :=
  if c = '\x08' then ['\\', 'b']
  else if c = '\t' then ['\\', 't']
  else if c = '\n' then ['\\', 'n']
  else if c = '\x0c' then ['\\', 'f']
  else if c = '\r' then ['\\', 'r']
  else if c = '"' then ['\\', '"']
  else if c = '\\' then ['\\', '\\']
  else if c.toNat < 0x20 || c.toNat = 0x7f then '\\' :: 'u' :: hexDigits c.toNat
  else [c]

/-- The characters of a text as they stand between the quotes. -/
def escape (cs : List Char) : List Char :=
  cs.flatMap escapeChar

/-- A text as a literal. -/
def quote (cs : List Char) : List Char :=
  '"' :: escape cs ++ ['"']

end ContactGraph.Query
