/-!
# Local phone numbers

Phone numbers that are written differently are compared by their local number : separators and
invisible formatting characters are dropped, digits of other scripts become Latin, the number ends
before its first tone character, and only the last digits count.
-/

namespace ContactGraph.Phone

/-- Characters that start tones : pause, wait and extension. -/
def isTone (c : Char) : Bool :=
  c.toLower = 'p' || c.toLower = 'w' || c.toLower = 'x'

/-- Characters that only make a number readable. -/
def isSeparator (c : Char) : Bool :=
  c = '(' || c = ')' || c = ' ' || c = '.' || c = '-'

/-- Ranges of invisible formatting characters that come with copied numbers. -/
def formatRanges : List (Nat × Nat) := [
  (0xad, 0xad), (0x600, 0x605), (0x61c, 0x61c), (0x6dd, 0x6dd), (0x70f, 0x70f), (0x180e, 0x180e),
  (0x200b, 0x200f), (0x202a, 0x202e), (0x2060, 0x2064), (0x2066, 0x206f), (0xfeff, 0xfeff),
  (0xfff9, 0xfffb)]

/-- Invisible formatting characters. -/
def isFormat (c : Char) : Bool :=
  formatRanges.any fun range => range.1 ≤ c.toNat && c.toNat ≤ range.2

/-- The zero of each script whose ten digits follow one another : Arabic, Persian, NKo, Devanagari,
Bengali, Gurmukhi, Gujarati, Oriya, Tamil, Telugu, Kannada, Malayalam, Thai, Lao, Tibetan, Myanmar,
Khmer, Mongolian and full width. -/
def zeros : List Nat := [
  0x660, 0x6f0, 0x7c0, 0x966, 0x9e6, 0xa66, 0xae6, 0xb66, 0xbe6, 0xc66, 0xce6, 0xd66, 0xe50, 0xed0,
  0xf20, 0x1040, 0x17e0, 0x1810, 0xff10]

/-- The Latin digit for a digit of any of the scripts. -/
def latinDigit? (c : Char) : Option Char :=
  if c.isDigit then some c
  else (zeros.find? fun first => first ≤ c.toNat && c.toNat < first + 10).map fun first =>
    Char.ofNat ('0'.toNat + (c.toNat - first))

/-- What a character contributes to a number. -/
def normalizeChar (c : Char) : Option Char :=
  match latinDigit? c with
  | some digit => some digit
  | none => if isSeparator c || isFormat c then none else some c

/-- The number without separators and formatting, in Latin digits. -/
def normalize (number : List Char) : List Char :=
  number.filterMap normalizeChar

/-- The last `length` characters in front of the first tone character. -/
def localNumber (length : Nat) (number : List Char) : List Char :=
  let dialled := (normalize number).takeWhile fun c => !isTone c
  dialled.drop (dialled.length - length)

end ContactGraph.Phone
