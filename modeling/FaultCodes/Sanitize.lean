/-
Sanitizing: foreign text made safe to hand to a remote caller.

Control characters become `?`, and so does an escape sequence as a whole: it starts at the escape
character and ends with the next ASCII letter. The result has at most 512 bytes; text that does not
fit is cut and marked.

`sanitize` works in one pass and stops reading as soon as the result is full; it then goes back to
the last place between characters that leaves room for the marker. `clean` is the replacement alone,
and `clip` the bound alone.
-/
import FaultCodes.Text.Control

namespace FaultCodes

/-- most bytes of a sanitized text, the marker included -/
def maxSanitized : Nat := 512

def escapeChar : Char := '\x1b'

namespace Sanitize

/-- what is shown for a character outside an escape sequence -/
def shown (c : Char) : Char :=
  if Text.isControl c then '?' else c

def endsEscape (c : Char) : Bool :=
  c.isAlpha

/-- the replacement without the bound; `escaped` says whether the scan is inside an escape sequence
-/
def cleanFrom : Bool → Text → Text
  | _, [] => []
  | true, c :: t => cleanFrom (!endsEscape c) t
  | false, c :: t => shown c :: cleanFrom (c = escapeChar) t

/-- the replacement without the bound -/
def clean (t : Text) : Text :=
  cleanFrom false t

/-- what a bounded scan has put out, and whether it stopped for want of room -/
structure Scan where
  out : Text
  full : Bool
  deriving DecidableEq, Repr

/-- the same scan with room for so many bytes -/
def scan : Bool → Nat → Text → Scan
  | _, _, [] => ⟨[], false⟩
  | true, room, c :: t => scan (!endsEscape c) room t
  | false, room, c :: t =>
    if (shown c).utf8Size ≤ room then
      let rest := scan (c = escapeChar) (room - (shown c).utf8Size) t
      ⟨shown c :: rest.out, rest.full⟩
    else ⟨[], true⟩

end Sanitize

/-- safe, bounded text -/
def sanitize (t : Text) : Text :=
  let s := Sanitize.scan false maxSanitized t
  if s.full then Text.cutBack s.out (maxSanitized - Text.marker.bytes) ++ Text.marker else s.out

end FaultCodes
