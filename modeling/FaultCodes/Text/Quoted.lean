/-
Quoted text: between double quotes, with a backslash before a quote or a backslash, short escapes
for tab, line feed, carriage return and NUL, and `\u{hex}` for every other character that has no
printed form or would join the character before it.
-/
import FaultCodes.Text.Extending
import FaultCodes.Text.Unprintable

namespace FaultCodes.Text

/-- lower-case hexadecimal digits without leading zeros -/
def hex (n : Nat) : Text :=
  Nat.toDigits 16 n

/-- one character inside quotes -/
def escape (c : Char) : Text :=
  if c = '"' then "\\\""
  else if c = '\\' then "\\\\"
  else if c = '\n' then "\\n"
  else if c = '\r' then "\\r"
  else if c = '\t' then "\\t"
  else if c.toNat = 0 then "\\0"
  else if isExtending c || isUnprintable c then "\\u\x7b" ++ hex c.toNat ++ "\x7d"
  else [c]

def quoted (t : Text) : Text :=
  "\"" ++ t.flatMap escape ++ "\""

end FaultCodes.Text
