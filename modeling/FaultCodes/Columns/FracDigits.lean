/-
Bounds on the digits shown after the point. Each bound is at most 20, and the lower one is not above
the upper one when both are set; `FracDigits.new` is the only way in, and reports the first rule
that two bounds break.
-/
import FaultCodes.Failure

namespace FaultCodes

def maxFracDigits : UInt32 := 20

/-- lowest and highest number of digits after the point -/
structure FracDigits where
  min : Option UInt32
  max : Option UInt32
  deriving DecidableEq, Repr

/-- why bounds are rejected -/
inductive FracDigitsProblem where
  | tooLarge (field : Text) (value : UInt32)
  | inverted (min max : UInt32)
  deriving DecidableEq, Repr

namespace FracDigitsProblem

def message : FracDigitsProblem → Text
  | tooLarge field value =>
    field ++ " is " ++ Decimal.ofNat value.toNat ++ ", above the limit of " ++
      Decimal.ofNat maxFracDigits.toNat
  | inverted min max =>
    "num_min_frac_digits (" ++ Decimal.ofNat min.toNat ++ ") exceeds num_max_frac_digits (" ++
      Decimal.ofNat max.toNat ++ ")"

def inspect : FracDigitsProblem → Text
  | tooLarge field value =>
    Inspect.record "FracDigitsTooLarge"
      [("field", Text.quoted field), ("value", Decimal.ofNat value.toNat)]
  | inverted min max =>
    Inspect.record "FracDigitsInverted"
      [("min", Decimal.ofNat min.toNat), ("max", Decimal.ofNat max.toNat)]

def failure (p : FracDigitsProblem) : Failure :=
  .badValue p.message

end FracDigitsProblem

namespace FracDigits

def minField : Text := "num_min_frac_digits"

def maxField : Text := "num_max_frac_digits"

def none : FracDigits :=
  ⟨.none, .none⟩

/-- the rule that one bound breaks, if it breaks one -/
def boundProblem? (field : Text) (bound : Option UInt32) : Option FracDigitsProblem :=
  bound.bind fun value => if maxFracDigits < value then some (.tooLarge field value) else .none

/-- the rule that two bounds break together, if they break it -/
def orderProblem? : Option UInt32 → Option UInt32 → Option FracDigitsProblem
  | some min, some max => if max < min then some (.inverted min max) else .none
  | _, _ => .none

/-- the bounds, when they break no rule -/
def new (min max : Option UInt32) : Except FracDigitsProblem FracDigits :=
  let outside := (boundProblem? minField min).or (boundProblem? maxField max)
  match outside.or (orderProblem? min max) with
  | some problem => .error problem
  | .none => .ok ⟨min, max⟩

def inspect (d : FracDigits) : Text :=
  let bound := Inspect.option fun n : UInt32 => Decimal.ofNat n.toNat
  Inspect.record "FracDigits" [("min", bound d.min), ("max", bound d.max)]

end FracDigits

end FaultCodes
