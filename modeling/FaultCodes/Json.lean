/-
JSON values. Integers are those of 64-bit words, signed or unsigned; every other number is a double.
The members of an object are in strictly increasing order of their keys when the object was made by
`Json.object`, which keeps the last of several members with one key.

`compact` is the written form without any spaces: members in the order they have in the value,
quotes, backslashes and control characters below U+0020 escaped, everything else as it is.
-/
import FaultCodes.Json.Double
import FaultCodes.Text.Inspect

namespace FaultCodes

inductive Json where
  | null
  | bool (b : Bool)
  | int (n : Int)
  | float (d : Double)
  | str (t : Text)
  | arr (items : List Json)
  | obj (members : List (Text × Json))
  deriving Repr

namespace Json

/-! ## Equality -/

mutual

def same : Json → Json → Bool
  | null, null => true
  | bool a, bool b => a = b
  | int a, int b => a = b
  | float a, float b => a = b
  | str a, str b => a = b
  | arr as, arr bs => sameItems as bs
  | obj as, obj bs => sameMembers as bs
  | _, _ => false

def sameItems : List Json → List Json → Bool
  | [], [] => true
  | a :: as, b :: bs => same a b && sameItems as bs
  | _, _ => false

def sameMembers : List (Text × Json) → List (Text × Json) → Bool
  | [], [] => true
  | (k, a) :: as, (l, b) :: bs => k = l && same a b && sameMembers as bs
  | _, _ => false

end

mutual

/-- `same` decides equality. -/
theorem same_iff (a b : Json) : same a b = true ↔ a = b := by
  cases a <;> cases b <;> simp [same, sameItems_iff, sameMembers_iff]

/-- `sameItems` decides equality. -/
theorem sameItems_iff (as bs : List Json) : sameItems as bs = true ↔ as = bs := by
  cases as with
  | nil => cases bs <;> simp [sameItems]
  | cons a as =>
    cases bs with
    | nil => simp [sameItems]
    | cons b bs => simp [sameItems, same_iff a b, sameItems_iff as bs]

/-- `sameMembers` decides equality. -/
theorem sameMembers_iff (as bs : List (Text × Json)) : sameMembers as bs = true ↔ as = bs := by
  cases as with
  | nil => cases bs <;> simp [sameMembers]
  | cons a as =>
    cases bs with
    | nil => simp [sameMembers]
    | cons b bs =>
      obtain ⟨k, a⟩ := a
      obtain ⟨l, b⟩ := b
      simp [sameMembers, same_iff a b, sameMembers_iff as bs, and_assoc]

end

instance : DecidableEq Json := fun a b => decidable_of_iff _ (same_iff a b)

/-! ## Objects -/

/-- members of an object -/
abbrev Members := List (Text × Json)

/-- sets a key in members that are in key order -/
def insert (key : Text) (value : Json) : Members → Members
  | [] => [(key, value)]
  | (k, v) :: ms =>
    if key < k then (key, value) :: (k, v) :: ms
    else if key = k then (key, value) :: ms
    else (k, v) :: insert key value ms

/-- members in key order; of several with one key the last stays -/
def sortMembers (ms : Members) : Members :=
  ms.foldl (fun sorted (key, value) => insert key value sorted) []

def object (ms : Members) : Json :=
  .obj (sortMembers ms)

/-! ## Written form -/

/-- the four hexadecimal digits of a control character -/
def hex4 (n : Nat) : Text :=
  List.replicate (4 - (Text.hex n).length) '0' ++ Text.hex n

/-- one character inside a string -/
def escape (c : Char) : Text :=
  if c = '"' then ['\\', '"']
  else if c = '\\' then ['\\', '\\']
  else if c.toNat = 8 then ['\\', 'b']
  else if c.toNat = 12 then ['\\', 'f']
  else if c = '\n' then ['\\', 'n']
  else if c = '\r' then ['\\', 'r']
  else if c = '\t' then ['\\', 't']
  else if c.toNat < 0x20 then ['\\', 'u'] ++ hex4 c.toNat
  else [c]

def string (t : Text) : Text :=
  '"' :: (t.flatMap escape ++ ['"'])

mutual

/-- the written form without spaces -/
def compact : Json → Text
  | null => "null"
  | bool b => Inspect.bool b
  | int n => Decimal.ofInt n
  | float d => d.text
  | str t => string t
  | arr items => "[" ++ compactItems items ++ "]"
  | obj members => "\x7b" ++ compactMembers members ++ "\x7d"

def compactItems : List Json → Text
  | [] => []
  | [j] => compact j
  | j :: k :: js => compact j ++ "," ++ compactItems (k :: js)

def compactMembers : List (Text × Json) → Text
  | [] => []
  | [(key, j)] => string key ++ ":" ++ compact j
  | (key, j) :: m :: ms => string key ++ ":" ++ compact j ++ "," ++ compactMembers (m :: ms)

end

mutual

def inspect : Json → Text
  | null => "Null"
  | bool b => Inspect.wrapped "Bool" (Inspect.bool b)
  | int n => Inspect.wrapped "Number" (Decimal.ofInt n)
  | float d => Inspect.wrapped "Number" d.text
  | str t => Inspect.wrapped "String" (Text.quoted t)
  | arr items => "Array " ++ Inspect.list (inspectItems items)
  | obj members => "Object " ++ Inspect.map (inspectMembers members)

def inspectItems : List Json → List Text
  | [] => []
  | j :: js => inspect j :: inspectItems js

def inspectMembers : List (Text × Json) → List (Text × Text)
  | [] => []
  | (key, j) :: ms => (Text.quoted key, inspect j) :: inspectMembers ms

end

/-- a text or null -/
def ofText? : Option Text → Json
  | none => null
  | some t => str t

def ofTexts (ts : List Text) : Json :=
  arr (ts.map str)

end Json

end FaultCodes
