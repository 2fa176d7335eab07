/-
The first break of a byte string that should be UTF-8.

A lead byte fixes how many bytes follow and between which bounds each of them lies (only the first
of them is ever narrower than 80..BF: it rules out overlong forms, surrogates and values past
U+10FFFF). The scan keeps the bounds that are still owed. A byte outside its bounds breaks the
sequence after the bytes already taken; the end of the input while bytes are owed leaves the
sequence incomplete.
-/
import FaultCodes.Text.Decimal

namespace FaultCodes.Utf8

/-- where the first bad sequence starts, and how many bytes it has unless the input just ends inside
it -/
structure Break where
  index : Nat
  length : Option Nat
  deriving DecidableEq, Repr

def Break.message (b : Break) : Text :=
  match b.length with
  | some n =>
    "invalid utf-8 sequence of " ++ Decimal.ofNat n ++ " bytes from index " ++ Decimal.ofNat b.index
  | none => "incomplete utf-8 byte sequence from index " ++ Decimal.ofNat b.index

/-- lowest and highest byte allowed at one place -/
abbrev Bounds := UInt8 × UInt8

/-- what any byte after the second may be -/
def continuation : Bounds := (0x80, 0xBF)

/-- the bounds of the bytes that a lead byte asks for, `none` when it leads nothing -/
def owed (lead : UInt8) : Option (List Bounds) :=
  if lead < 0x80 then some []
  else if lead < 0xC2 then none
  else if lead < 0xE0 then some [continuation]
  else if lead = 0xE0 then some [(0xA0, 0xBF), continuation]
  else if lead = 0xED then some [(0x80, 0x9F), continuation]
  else if lead < 0xF0 then some [continuation, continuation]
  else if lead = 0xF0 then some [(0x90, 0xBF), continuation, continuation]
  else if lead < 0xF4 then some [continuation, continuation, continuation]
  else if lead = 0xF4 then some [(0x80, 0x8F), continuation, continuation]
  else none

/-- scans on from position `pos`, inside the sequence that started at `start` as long as bytes are
owed -/
def scan (start pos : Nat) : List Bounds → List UInt8 → Option Break
  | [], [] => none
  | _ :: _, [] => some ⟨start, none⟩
  | [], b :: bs =>
    match owed b with
    | none => some ⟨pos, some 1⟩
    | some bounds => scan pos (pos + 1) bounds bs
  | (low, high) :: bounds, b :: bs =>
    if low ≤ b ∧ b ≤ high then scan start (pos + 1) bounds bs else some ⟨start, some (pos - start)⟩

def break? (bs : List UInt8) : Option Break :=
  scan 0 0 [] bs

end FaultCodes.Utf8
