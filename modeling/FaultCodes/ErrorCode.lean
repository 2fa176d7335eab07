/-
Error codes: a code together with the origin whose block it lies in. `ofValue?` is the checked way
in, `unknown` is the floor of the block, and every code read from a wire value decodes to its origin
again (`ofCode?_value`).
-/
import FaultCodes.Origin
import FaultCodes.Text.Inspect

namespace FaultCodes

/-- a code and the origin it belongs to -/
structure ErrorCode where
  origin : Origin
  value : Int32
  inBlock : origin.contains value = true
  deriving DecidableEq

/-- a value that its origin's block does not hold -/
structure OutsideBlock where
  origin : Origin
  value : Int32
  deriving DecidableEq, Repr

def OutsideBlock.message (e : OutsideBlock) : Text :=
  "Error code " ++ Decimal.ofInt e.value.toInt ++ " is outside the " ++ e.origin.label ++
    " block (" ++ Decimal.ofInt e.origin.last.toInt ++ "..=" ++
    Decimal.ofInt e.origin.floor.toInt ++ ")"

def OutsideBlock.inspect (e : OutsideBlock) : Text :=
  Inspect.record "OutsideBlock" [("origin", e.origin.name), ("value", Decimal.ofInt e.value.toInt)]

namespace ErrorCode

/-- the code with this value, when the block holds it -/
def ofValue? (o : Origin) (value : Int32) : Except OutsideBlock ErrorCode :=
  if h : o.contains value = true then .ok ⟨o, value, h⟩ else .error ⟨o, value⟩

/-- what a declaration of a constant code outside its block is refused with -/
def declarationRefused : Text := "Error code outside its origin block"

/-- the floor of the block -/
def unknown (o : Origin) : ErrorCode :=
  ⟨o, o.floor, o.contains_floor⟩

/-- whether the code is the floor of its block -/
def isUnknown (c : ErrorCode) : Bool :=
  c.value = c.origin.floor

/-- the bare signed number -/
def display (c : ErrorCode) : Text :=
  Decimal.ofInt c.value.toInt

def inspect (c : ErrorCode) : Text :=
  Inspect.record "ErrorCode" [("origin", c.origin.name), ("value", c.display)]

/-- The wire value leads back to the origin. -/
theorem ofCode?_value (c : ErrorCode) : Origin.ofCode? c.value = some c.origin :=
  Origin.ofCode?_eq_some_iff.2 c.inBlock

end ErrorCode

end FaultCodes
