/-
Double-precision numbers by their 64 bits, and their decimal text.

A finite double stands for `mantissa * 2 ^ exponent`. Its text is the shortest decimal that lies in
the interval of reals rounding to it, and of those the nearest: for one digit, two digits and so on
up to seventeen, the two neighbours of the value on that decimal grid are tried. Exponents of the
leading digit from -5 to 15 are written positionally and always with a point; all others as a
mantissa, `e` and a signed exponent.
-/
import FaultCodes.Text.Decimal

namespace FaultCodes

/-- a double by its bits -/
structure Double where
  bits : UInt64
  deriving DecidableEq, Repr

namespace Double

def isNegative (d : Double) : Bool :=
  0x8000000000000000 ≤ d.bits.toNat

def exponentField (d : Double) : Nat :=
  d.bits.toNat / 0x10000000000000 % 2048

def fractionField (d : Double) : Nat :=
  d.bits.toNat % 0x10000000000000

/-- the integer of the value `mantissa * 2 ^ exponent` -/
def mantissa (d : Double) : Nat :=
  if d.exponentField = 0 then d.fractionField else 0x10000000000000 + d.fractionField

/-- the power of two of the value `mantissa * 2 ^ exponent` -/
def exponent (d : Double) : Int :=
  if d.exponentField = 0 then -1074 else (d.exponentField : Int) - 1075

/-- digits, most significant first, and the decimal exponent of the first one -/
structure Digits where
  digits : List Nat
  exponent : Int
  deriving DecidableEq, Repr

/-- a positive rational -/
structure Ratio where
  num : Nat
  den : Nat

/-- `n * 2 ^ e` -/
def Ratio.scaled (n : Nat) (e : Int) : Ratio :=
  ⟨n * Nat.pow 2 e.toNat, Nat.pow 2 (-e).toNat⟩

/-- `n * 10 ^ e` -/
def Ratio.decimal (n : Nat) (e : Int) : Ratio :=
  ⟨n * Nat.pow 10 e.toNat, Nat.pow 10 (-e).toNat⟩

def Ratio.le (a b : Ratio) : Bool :=
  a.num * b.den ≤ b.num * a.den

def Ratio.lt (a b : Ratio) : Bool :=
  a.num * b.den < b.num * a.den

/-- the reals that round to the value of a double; the ends belong to them when the mantissa is even
-/
structure Interval where
  low : Ratio
  high : Ratio
  closed : Bool

/-- whether a rational lies in the interval -/
def Interval.holds (i : Interval) (r : Ratio) : Bool :=
  if i.closed then i.low.le r && r.le i.high else i.low.lt r && r.lt i.high

/-- the interval of a double; below a power of two the neighbours are half as far -/
def interval (d : Double) : Interval where
  low :=
    .scaled
      (if d.fractionField = 0 ∧ 1 < d.exponentField then 4 * d.mantissa - 1 else 4 * d.mantissa - 2)
    (d.exponent - 2)
  high := .scaled (4 * d.mantissa + 2) (d.exponent - 2)
  closed := d.mantissa % 2 = 0

/-- the decimal exponent of the leading digit of a positive double -/
def leading (d : Double) : Int :=
  let value := Ratio.scaled d.mantissa d.exponent
  ((Nat.toDigits 10 (value.num * Nat.pow 10 340 / value.den)).length : Int) - 341

/-- the neighbours of the value among the multiples of `10 ^ k` that round to it, the nearer one
first -/
def onGrid (d : Double) (k : Int) : List Nat :=
  let value := Ratio.scaled d.mantissa d.exponent
  let unit := Ratio.decimal 1 k
  let scaledNum := value.num * unit.den
  let scaledDen := value.den * unit.num
  let below := scaledNum / scaledDen
  let rest := scaledNum % scaledDen
  let nearer :=
    if 2 * rest < scaledDen ∨ (2 * rest = scaledDen ∧ below % 2 = 0) then [below, below + 1]
    else [below + 1, below]
  nearer.filter fun n => n ≠ 0 ∧ d.interval.holds (.decimal n k)

/-- the first hit with `n` or more digits, tried for `fuel` lengths -/
def shortestFrom (d : Double) (n : Nat) : Nat → Option (Nat × Int)
  | 0 => none
  | fuel + 1 =>
    let k := d.leading - ((n : Int) - 1)
    match d.onGrid k with
    | m :: _ => some (m, k)
    | [] => shortestFrom d (n + 1) fuel

def stripZeros (ds : List Nat) : List Nat :=
  (ds.reverse.dropWhile (· = 0)).reverse

/-- the shortest digits of a positive double -/
def shortest (d : Double) : Digits :=
  match d.shortestFrom 1 17 with
  | some (m, k) =>
    let ds := (Decimal.ofNat m).map Decimal.digit
    ⟨stripZeros ds, k + (ds.length : Int) - 1⟩
  | none => ⟨[0], 0⟩

def Digits.plain (ds : List Nat) : Text :=
  ds.map Nat.digitChar

/-- positional for leading exponents from -5 to 15, otherwise with a signed exponent -/
def Digits.text (d : Digits) : Text :=
  if 0 ≤ d.exponent ∧ d.exponent < 16 then
    let whole := d.exponent.toNat + 1
    let after := d.digits.drop whole
    Digits.plain (d.digits.take whole) ++ List.replicate (whole - d.digits.length) '0' ++ "." ++
      (if after.isEmpty then ['0'] else Digits.plain after)
  else if -5 ≤ d.exponent ∧ d.exponent < 0 then
    "0." ++ List.replicate ((-d.exponent).toNat - 1) '0' ++ Digits.plain d.digits
  else
    let after := d.digits.drop 1
    Digits.plain (d.digits.take 1) ++ (if after.isEmpty then [] else '.' :: Digits.plain after) ++
      ['e', if d.exponent < 0 then '-' else '+'] ++ Decimal.ofNat d.exponent.natAbs

/-- the decimal text of a finite double -/
def text (d : Double) : Text :=
  (if d.isNegative then ['-'] else []) ++
    (if d.mantissa = 0 then ['0', '.', '0'] else d.shortest.text)

/-- the double that a significand and a power of ten stand for, `none` when that is too large. A
power of ten past 308 is applied in steps; a product or quotient is rounded once in each step. -/
def scale (positive : Bool) (fuel : Nat) (f : Float) (exponent : Int) : Option Double :=
  if exponent.natAbs ≤ 308 then
    let power := Float.ofScientific 1 false exponent.natAbs
    let g := if 0 ≤ exponent then f * power else f / power
    if 0 ≤ exponent && g.isInf then none else some ⟨(if positive then g else -g).toBits⟩
  else if f == 0 then some ⟨(if positive then f else -f).toBits⟩
  else if 0 ≤ exponent then none
  else
    match fuel with
    | 0 => some ⟨(if positive then (0 : Float) else -0).toBits⟩
    | fuel + 1 => scale positive fuel (f / Float.ofScientific 1 false 308) (exponent + 308)

/-- the double for `significand * 10 ^ exponent` with a sign -/
def ofParts? (positive : Bool) (significand : UInt64) (exponent : Int) : Option Double :=
  scale positive 3 significand.toFloat exponent

end Double

end FaultCodes
