/-
Codecs: how a type is read from JSON and written to it.

`read` takes a JSON value, or says why not. `check` goes over a document in the order of its text
and reports the first break or rejection it meets, with `depth` levels of nesting still allowed;
reading a text is checking its document and then reading the value of it.
-/
import FaultCodes.Record.Problem

namespace FaultCodes.Record

open FaultCodes.Json

/-- a type's JSON form -/
structure Codec (α : Type) where
  read : Json → Except Problem α
  write : α → Json
  check : Nat → Document → Except TextProblem Unit

namespace Codec

/-- checks a value that has to be a scalar: it is scanned to its end first, an array or object is
turned away at once -/
def checkScalar {α : Type} (read : Json → Except Problem α) : Document → Except TextProblem Unit
  | .broken b => .error (.broken b)
  | .null s | .str s | .scalar s => do
    let v ← orBroken s.value
    if (read v).isOk then .ok () else .error .rejected
  | .arr _ | .obj _ => .error .rejected

def scalar {α : Type} (read : Json → Except Problem α) (write : α → Json) : Codec α :=
  ⟨read, write, fun _ => checkScalar read⟩

/-- the nesting left inside an array or object -/
def enter (depth : Nat) : Except TextProblem Nat :=
  if depth ≤ 1 then .error (.broken .malformed) else .ok (depth - 1)

def int64 : Codec Int64 :=
  scalar
    (fun
      | .int n =>
        if -0x8000000000000000 ≤ n ∧ n < 0x8000000000000000 then .ok (.ofInt n)
        else .error (.outOfRange n "i64")
      | j => .error (.wrongType (.of j) "i64"))
    (fun n => .int n.toInt)

def uint32 : Codec UInt32 :=
  scalar
    (fun
      | .int n => if 0 ≤ n ∧ n < 0x100000000 then .ok (.ofNat n.toNat) else .error (.outOfRange n "u32")
      | j => .error (.wrongType (.of j) "u32"))
    (fun n => .int n.toNat)

def text : Codec Text :=
  scalar
    (fun
      | .str t => .ok t
      | j => .error (.wrongType (.of j) "a string"))
    .str

def bool : Codec Bool :=
  scalar
    (fun
      | .bool b => .ok b
      | j => .error (.wrongType (.of j) "a boolean"))
    .bool

/-- any value, kept as it is -/
def any : Codec Json :=
  ⟨.ok, id, fun depth d => (orBroken (d.value depth)).map fun _ => ()⟩

/-- null for nothing; in a document the first letter settles that it is null -/
def nullable {α : Type} (c : Codec α) : Codec (Option α) where
  read
    | .null => .ok none
    | j => (c.read j).map some
  write
    | none => .null
    | some a => c.write a
  check depth
    | .null s => (orBroken s.value).map fun _ => ()
    | d => c.check depth d

/-- a value that is there, null included -/
def present {α : Type} (c : Codec α) : Codec (Option α) where
  read j := (c.read j).map some
  write
    | none => .null
    | some a => c.write a
  check := c.check

def readItems {α : Type} (read : Json → Except Problem α) : List Json → Except Problem (List α)
  | [] => .ok []
  | j :: js => do
    let a ← read j
    let as ← readItems read js
    return a :: as

def checkItems (check : Document → Except TextProblem Unit) : Items → Except TextProblem Unit
  | .stop none => .ok ()
  | .stop (some b) => .error (.broken b)
  | .item d rest => do
    check d
    checkItems check rest

def list {α : Type} (c : Codec α) : Codec (List α) where
  read
    | .arr js => readItems c.read js
    | j => .error (.wrongType (.of j) "a sequence")
  write as := .arr (as.map c.write)
  check depth
    | .arr items => do
      let inner ← enter depth
      checkItems (c.check inner) items
    | d => checkScalar (α := α) (fun j => .error (.wrongType (.of j) "a sequence")) d

/-- a text read with a codec: the first break or rejection decides, then nothing but spaces may
follow -/
def ofText {α : Type} (c : Codec α) (t : Text) : Except TextProblem α := do
  let (d, rest) := Document.ofText t
  c.check nestingLimit d
  match c.read d.json with
  | .error _ => .error .rejected
  | .ok a => do
    orBroken (atEnd rest)
    return a

end Codec

/-! ## Names from a closed set -/

/-- a closed set of values and their names -/
structure Variants (α : Type) where
  all : List α
  name : α → Text

namespace Variants

variable {α : Type}

def ofName (v : Variants α) (name : Text) : Except Problem α :=
  match v.all.find? (v.name · = name) with
  | some a => .ok a
  | none => .error (.unknownVariant name (v.all.map v.name))

/-- what stands for no content in the long form: null, and with `emptyUnit` an empty object too -/
def unit (emptyUnit : Bool) : Json → Except Problem Unit
  | .null => .ok ()
  | .obj [] => if emptyUnit then .ok () else .error (.wrongType .map "unit")
  | j => .error (.wrongType (.of j) "unit")

/-- a name alone, or an object with the name as its only key and no content -/
def read (v : Variants α) (emptyUnit : Bool) : Json → Except Problem α
  | .str name => v.ofName name
  | .obj [(name, content)] => do
    let a ← v.ofName name
    unit emptyUnit content
    return a
  | .obj _ => .error .notOneKey
  | j => .error (.wrongType (.of j) "string or map")

def checkName (v : Variants α) (s : Scalar) : Except TextProblem Unit :=
  Codec.checkScalar (fun
    | .str name => v.ofName name
    | j => .error (.wrongType (.of j) "variant identifier")) (.scalar s)

/-- checks the long form after its opening brace: the name is checked before its colon is looked for
-/
def checkEntries (v : Variants α) : Entries → Except TextProblem Unit
  | .stop none => .error (.broken .malformed)
  | .stop (some b) => .error (.broken b)
  | .endAfterComma => .error (.broken .ended)
  | .entry key d rest => do
    v.checkName key
    Codec.checkScalar (unit false) d
    match rest with
    | .stop none => .ok ()
    | .stop (some b) => .error (.broken b)
    | _ => .error (.broken .malformed)

/-- checks either form; anything else in its place breaks the text -/
def check (v : Variants α) (depth : Nat) : Document → Except TextProblem Unit
  | .broken b => .error (.broken b)
  | .str s => v.checkName s
  | .obj entries => do
    let _ ← Codec.enter depth
    v.checkEntries entries
  | _ => .error (.broken .malformed)

def codec (v : Variants α) (emptyUnit : Bool) : Codec α :=
  ⟨v.read emptyUnit, fun a => .str (v.name a), v.check⟩

end Variants

end FaultCodes.Record
