/-
Why a JSON value is not the record that was asked for, with the words for it. For JSON text it is
enough to know whether the text itself breaks or the value in it is rejected.
-/
import FaultCodes.Json.Document
import FaultCodes.Columns.FracDigits

namespace FaultCodes.Record

/-- what a value is, for a message -/
inductive Found where
  | null
  | bool (b : Bool)
  | int (n : Int)
  | float (d : Double)
  | str (t : Text)
  | sequence
  | map
  deriving DecidableEq, Repr

def Found.of : Json → Found
  | .null => null
  | .bool b => bool b
  | .int n => int n
  | .float d => float d
  | .str t => str t
  | .arr _ => sequence
  | .obj _ => map

def ticked (t : Text) : Text :=
  "`" ++ t ++ "`"

def Found.message : Found → Text
  | null => "null"
  | bool b => "boolean " ++ ticked (Inspect.bool b)
  | int n => "integer " ++ ticked (Decimal.ofInt n)
  | float d => "floating point " ++ ticked d.text
  | str t => "string " ++ Text.quoted t
  | sequence => "sequence"
  | map => "map"

/-- why a value is rejected -/
inductive Problem where
  | wrongType (found : Found) (expected : Text)
  | outOfRange (n : Int) (expected : Text)
  | missing (field : Text)
  | tooShort (length : Nat) (record : Text) (fields : Nat)
  | tooLong (length : Nat)
  | notOneKey
  | unknownVariant (name : Text) (known : List Text)
  | fracDigits (problem : FracDigitsProblem)
  deriving DecidableEq, Repr

/-- one name, two names with "or", or a list -/
def choices : List Text → Text
  | [a] => ticked a
  | [a, b] => ticked a ++ " or " ++ ticked b
  | names => "one of " ++ Text.join ", " (names.map ticked)

def structName (record : Text) : Text :=
  "struct " ++ record

namespace Problem

def message : Problem → Text
  | wrongType found expected => "invalid type: " ++ found.message ++ ", expected " ++ expected
  | outOfRange n expected =>
    "invalid value: integer " ++ ticked (Decimal.ofInt n) ++ ", expected " ++ expected
  | missing field => "missing field " ++ ticked field
  | tooShort length record fields =>
    "invalid length " ++ Decimal.ofNat length ++ ", expected " ++ structName record ++ " with " ++
      Decimal.ofNat fields ++ (if fields = 1 then " element".toList else " elements".toList)
  | tooLong length =>
    "invalid length " ++ Decimal.ofNat length ++ ", expected fewer elements in array"
  | notOneKey => "invalid value: map, expected map with a single key"
  | unknownVariant name known => "unknown variant " ++ ticked name ++ ", expected " ++ choices known
  | fracDigits problem => problem.message

def failure (p : Problem) : Failure :=
  .badValue p.message

end Problem

/-- why a text is not the record that was asked for: it breaks, or what it says is rejected -/
inductive TextProblem where
  | broken (b : Json.Break)
  | rejected
  deriving DecidableEq, Repr

/-- a break as such a reason -/
def orBroken {α : Type} : Except Json.Break α → Except TextProblem α
  | .ok a => .ok a
  | .error b => .error (.broken b)

end FaultCodes.Record
