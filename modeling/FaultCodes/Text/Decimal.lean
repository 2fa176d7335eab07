/-
Decimal numerals: printing integers, reading signed 32-bit integers, and the shape of a
floating-point literal.

`readInt32` goes from left to right and reports the first problem it meets: a character that is no
digit, or a value that has left the range.
-/
import FaultCodes.Text

namespace FaultCodes.Decimal

/-- decimal digits of a natural number, without leading zeros -/
def ofNat (n : Nat) : Text :=
  Nat.toDigits 10 n

/-- decimal digits of an integer, after a minus sign when it is negative -/
def ofInt (n : Int) : Text :=
  if n < 0 then '-' :: ofNat n.natAbs else ofNat n.natAbs

def digit (c : Char) : Nat :=
  c.toNat - 48

/-- why a text is no 32-bit integer -/
inductive IntegerProblem where
  | empty
  | digit
  | tooLarge
  | tooSmall
  deriving DecidableEq, Repr

def IntegerProblem.message : IntegerProblem → Text
  | .empty => "cannot parse integer from empty string"
  | .digit => "invalid digit found in string"
  | .tooLarge => "number too large to fit in target type"
  | .tooSmall => "number too small to fit in target type"

/-- reads digits on top of `value`, which may not pass `limit` -/
def readDigits (limit : Nat) (beyond : IntegerProblem) : Nat → Text → Except IntegerProblem Nat
  | value, [] => .ok value
  | value, c :: t =>
    if !c.isDigit then .error .digit
    else if 10 * value + digit c ≤ limit then readDigits limit beyond (10 * value + digit c) t
    else .error beyond

/-- reads an optional sign and at least one digit -/
def readInt32 : Text → Except IntegerProblem Int32
  | [] => .error .empty
  | ['+'] => .error .digit
  | ['-'] => .error .digit
  | '-' :: t => (readDigits 0x80000000 .tooSmall 0 t).map fun n => Int32.ofInt (-n)
  | '+' :: t => (readDigits 0x7FFFFFFF .tooLarge 0 t).map fun n => Int32.ofInt n
  | t => (readDigits 0x7FFFFFFF .tooLarge 0 t).map fun n => Int32.ofInt n

/-- why a text is no floating-point literal -/
inductive LiteralProblem where
  | empty
  | malformed
  deriving DecidableEq, Repr

def LiteralProblem.message : LiteralProblem → Text
  | .empty => "cannot parse float from empty string"
  | .malformed => "invalid float literal"

/-- drops one sign -/
def unsigned : Text → Text
  | '+' :: t => t
  | '-' :: t => t
  | t => t

/-- nothing, or an exponent mark, an optional sign and digits -/
def isExponent : Text → Bool
  | [] => true
  | c :: t => c.toLower = 'e' && !(unsigned t).isEmpty && (unsigned t).all Char.isDigit

/-- digits with at most one point among them, at least one digit in all, then an exponent -/
def isMantissa (t : Text) : Bool :=
  match t.dropWhile Char.isDigit with
  | '.' :: r =>
    !(t.takeWhile Char.isDigit ++ r.takeWhile Char.isDigit).isEmpty &&
      isExponent (r.dropWhile Char.isDigit)
  | r => !(t.takeWhile Char.isDigit).isEmpty && isExponent r

/-- the names of the values that are not finite -/
def nonFinite : List Text :=
  ["inf", "infinity", "nan"]

/-- what is wrong with a floating-point literal, if anything -/
def literalProblem? (t : Text) : Option LiteralProblem :=
  if t.isEmpty then some .empty
  else if (unsigned t).map Char.toLower ∈ nonFinite || isMantissa (unsigned t) then none
  else some .malformed

end FaultCodes.Decimal
