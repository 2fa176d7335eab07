/-
Scalars of JSON text: words, numbers and strings.

A scalar can be read or skipped. Reading wants its value; skipping only wants to get past it, and is
content with less: it pays no attention to unpaired surrogates and to the size of numbers. So each
scalar carries both outcomes, and either may be a break: the text is malformed at this point, or it
ends before the scalar does.
-/
import FaultCodes.Json

namespace FaultCodes.Json

/-- where JSON text stops being JSON text -/
inductive Break where
  | malformed
  | ended
  deriving DecidableEq, Repr

/-- a scalar as read and as skipped -/
structure Scalar where
  value : Except Break Json
  skipped : Except Break Unit

namespace Scalar

/-- the same break either way -/
def broken (b : Break) : Scalar :=
  ⟨.error b, .error b⟩

/-- what is left to scan after the scalar, nothing when even skipping breaks -/
abbrev Rest := Option Text

def word (value : Json) : Text → Text → Scalar × Rest
  | [], rest => (⟨.ok value, .ok ()⟩, some rest)
  | _ :: _, [] => (broken .ended, none)
  | w :: ws, c :: t => if w = c then word value ws t else (broken .malformed, none)

/-! ## Numbers -/

/-- a number as written: sign, digits before and after the point, exponent -/
structure Literal where
  negative : Bool
  whole : Text
  fraction : Option Text
  exponent : Option (Bool × Text)
  deriving DecidableEq, Repr

/-- digits on top of a 64-bit significand, as long as it stays one; the digits that no longer fit
are returned -/
def fill (significand : Nat) : Text → Nat × Text
  | [] => (significand, [])
  | c :: t =>
    if 10 * significand + Decimal.digit c < 0x10000000000000000 then
      fill (10 * significand + Decimal.digit c) t
    else (significand, c :: t)

def natOf (ds : Text) : Nat :=
  ds.foldl (fun n c => 10 * n + Decimal.digit c) 0

namespace Literal

/-- the double for the literal: the leading digits as a significand, the exponent for where the
point falls -/
def double? (l : Literal) : Option Double :=
  let (whole, dropped) := fill 0 l.whole
  let (significand, unused) := fill whole (l.fraction.getD [])
  let taken := (l.fraction.getD []).length - unused.length
  let place : Int := dropped.length - taken
  match l.exponent with
  | none => Double.ofParts? (!l.negative) (.ofNat significand) place
  | some (down, ds) =>
    if natOf ds < 0x80000000 then
      Double.ofParts? (!l.negative) (.ofNat significand)
        (if down then place - natOf ds else place + natOf ds)
    else if significand ≠ 0 ∧ !down then none
    else Double.ofParts? (!l.negative) 0 0

/-- the value: an integer when it is written as one and fits a 64-bit word, otherwise a double -/
def value (l : Literal) : Except Break Json :=
  let n := natOf l.whole
  let isInteger := l.fraction.isNone && l.exponent.isNone
  if isInteger && !l.negative && n < 0x10000000000000000 then .ok (.int n)
  else if isInteger && l.negative && n ≠ 0 && n ≤ 0x8000000000000000 then .ok (.int (-n))
  else
    match l.double? with
    | some d => .ok (.float d)
    | none => .error .malformed

end Literal

/-- a number that the text breaks: skipping calls it malformed even at the end of the text -/
def brokenNumber (rest : Text) : Scalar :=
  if rest.isEmpty then ⟨.error .ended, .error .malformed⟩ else broken .malformed

def exponent (l : Literal) : Text → Scalar × Rest
  | c :: t =>
    if c = 'e' ∨ c = 'E' then
      let (down, t) := match t with
        | '-' :: t => (true, t)
        | '+' :: t => (false, t)
        | t => (false, t)
      if (t.takeWhile Char.isDigit).isEmpty then (brokenNumber t, none)
      else
        (⟨{ l with exponent := some (down, t.takeWhile Char.isDigit) }.value, .ok ()⟩,
         some (t.dropWhile Char.isDigit))
    else (⟨l.value, .ok ()⟩, some (c :: t))
  | [] => (⟨l.value, .ok ()⟩, some [])

def fraction (l : Literal) : Text → Scalar × Rest
  | '.' :: t =>
    if (t.takeWhile Char.isDigit).isEmpty then (brokenNumber t, none)
    else exponent { l with fraction := some (t.takeWhile Char.isDigit) } (t.dropWhile Char.isDigit)
  | t => exponent l t

/-- a number after its sign; a leading zero stands alone -/
def unsignedNumber (negative : Bool) : Text → Scalar × Rest
  | [] => (brokenNumber [], none)
  | '0' :: t =>
    match t with
    | d :: _ =>
      if d.isDigit then (broken .malformed, none) else fraction ⟨negative, ['0'], none, none⟩ t
    | [] => fraction ⟨negative, ['0'], none, none⟩ t
  | c :: t =>
    if c.isDigit then
      fraction ⟨negative, (c :: t).takeWhile Char.isDigit, none, none⟩
        ((c :: t).dropWhile Char.isDigit)
    else (broken .malformed, none)

def number : Text → Scalar × Rest
  | '-' :: t => unsignedNumber true t
  | t => unsignedNumber false t

/-! ## Strings -/

/-- where a scan inside a string stands: in plain text, after a backslash, after a high surrogate
(before and after the next backslash), or among the four digits of a code unit, with the digits
still to come and the value so far -/
inductive Mode where
  | plain
  | escaped
  | paired (high : Nat)
  | pairedEscaped (high : Nat)
  | digits (left : Nat) (unit : Nat) (high : Option Nat)
  deriving DecidableEq, Repr

def hexValue? (c : Char) : Option Nat :=
  if c.isDigit then some (c.toNat - 48)
  else if 'a' ≤ c ∧ c ≤ 'f' then some (c.toNat - 87)
  else if 'A' ≤ c ∧ c ≤ 'F' then some (c.toNat - 55)
  else none

def shortEscape? (c : Char) : Option Char :=
  if c = '"' ∨ c = '\\' ∨ c = '/' then some c
  else if c = 'b' then some '\x08'
  else if c = 'f' then some '\x0c'
  else if c = 'n' then some '\n'
  else if c = 'r' then some '\r'
  else if c = 't' then some '\t'
  else none

/-- the first of the two units of a character past U+FFFF -/
def isHigh (unit : Nat) : Bool :=
  0xD800 ≤ unit && unit ≤ 0xDBFF

/-- the second of the two units of a character past U+FFFF -/
def isLow (unit : Nat) : Bool :=
  0xDC00 ≤ unit && unit ≤ 0xDFFF

def pair (high low : Nat) : Char :=
  Char.ofNat (0x10000 + 0x400 * (high - 0xD800) + (low - 0xDC00))

def push (c : Char) : Except Break (Text × Text) → Except Break (Text × Text)
  | .ok (content, rest) => .ok (c :: content, rest)
  | .error b => .error b

/-- the content of a string after its opening quote, and what follows the closing one; `strict` asks
surrogates to be paired -/
def content (strict : Bool) : Mode → Text → Except Break (Text × Text)
  | _, [] => .error .ended
  | .plain, c :: t =>
    if c = '"' then .ok ([], t)
    else if c = '\\' then content strict .escaped t
    else if c.toNat < 0x20 then .error .malformed
    else push c (content strict .plain t)
  | .escaped, c :: t =>
    if c = 'u' then
      if Text.bytes (t.take 4) < 4 then .error .ended else content strict (.digits 4 0 none) t
    else
      match shortEscape? c with
      | some e => push e (content strict .plain t)
      | none => .error .malformed
  | .paired high, c :: t =>
    if c = '\\' then content strict (.pairedEscaped high) t else .error .malformed
  | .pairedEscaped high, c :: t =>
    if c = 'u' then
      if Text.bytes (t.take 4) < 4 then .error .ended
      else content strict (.digits 4 0 (some high)) t
    else .error .malformed
  | .digits left unit high, c :: t =>
    match hexValue? c with
    | none => .error .malformed
    | some d =>
      let unit := 16 * unit + d
      if 1 < left then content strict (.digits (left - 1) unit high) t
      else if !strict then content strict .plain t
      else
        match high with
        | some h =>
          if isLow unit then push (pair h unit) (content strict .plain t) else .error .malformed
        | none =>
          if isLow unit then .error .malformed
          else if isHigh unit then content strict (.paired unit) t
          else push (Char.ofNat unit) (content strict .plain t)

/-- a string after its opening quote -/
def string (t : Text) : Scalar × Rest :=
  match content true .plain t with
  | .ok (s, rest) => (⟨.ok (.str s), .ok ()⟩, some rest)
  | .error b =>
    match content false .plain t with
    | .ok (_, rest) => (⟨.error b, .ok ()⟩, some rest)
    | .error c => (⟨.error b, .error c⟩, none)

/-- the word or number that starts here -/
def read : Text → Scalar × Rest
  | [] => (broken .ended, none)
  | 'n' :: t => word .null "ull" t
  | 't' :: t => word (.bool true) "rue" t
  | 'f' :: t => word (.bool false) "alse" t
  | c :: t => if c = '-' ∨ c.isDigit then number (c :: t) else (broken .malformed, none)

end Scalar

end FaultCodes.Json
