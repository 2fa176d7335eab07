/-
Inspection text: one way of writing structured values for a reader of logs. A record is `Name {
field: value }`, a wrapped value `Name(value)`, a list `[a, b]`; texts inside are quoted.
-/
import FaultCodes.Text.Quoted
import FaultCodes.Text.Decimal

namespace FaultCodes.Inspect

/-- `Name { field: value, field: value }` -/
def record (name : Text) (fields : List (Text × Text)) : Text :=
  name ++ " \x7b " ++ Text.join ", " (fields.map fun (field, value) => field ++ ": " ++ value) ++
    " \x7d"

/-- `Name(value)` -/
def wrapped (name inner : Text) : Text :=
  name ++ "(" ++ inner ++ ")"

/-- `[a, b]` -/
def list (items : List Text) : Text :=
  "[" ++ Text.join ", " items ++ "]"

/-- `(a, b)` -/
def pair (a b : Text) : Text :=
  "(" ++ a ++ ", " ++ b ++ ")"

/-- `{a: x, b: y}` -/
def map (entries : List (Text × Text)) : Text :=
  "\x7b" ++ Text.join ", " (entries.map fun (key, value) => key ++ ": " ++ value) ++ "\x7d"

/-- `None` or `Some(value)` -/
def option {α : Type} (inner : α → Text) : Option α → Text
  | none => "None"
  | some a => wrapped "Some" (inner a)

def bool (b : Bool) : Text :=
  if b then "true" else "false"

end FaultCodes.Inspect
