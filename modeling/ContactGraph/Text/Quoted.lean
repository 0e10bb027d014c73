import ContactGraph.Text.PlainTable
import ContactGraph.Text.CaseTable

/-!
# Quoted text in messages

A message shows a text between double quotes. Tab, line feed, carriage return, NUL, backslash and
double quote have short escapes; any other character that would not show is written by its code in
lower-case hexadecimal digits.
-/

namespace ContactGraph.Text

/-- How one character stands inside a quoted message. -/
def showChar (c : Char) : List Char :=
  if c = '\x00' then ['\\', '0']
  else if c = '\t' then ['\\', 't']
  else if c = '\n' then ['\\', 'n']
  else if c = '\r' then ['\\', 'r']
  else if c = '\\' then ['\\', '\\']
  else if c = '"' then ['\\', '"']
  else if inRanges plainRanges c.toNat then [c]
  else ['\\', 'u', '\x7b'] ++ Nat.toDigits 16 c.toNat ++ ['\x7d']

/-- The text between double quotes, escaped for a message. -/
def quoted (s : String) : String :=
  String.ofList ('"' :: s.toList.flatMap showChar ++ ['"'])

end ContactGraph.Text
