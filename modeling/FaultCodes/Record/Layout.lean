/-
Layouts: the fields of a record in declaration order, and the three ways of reading them.

From an object the members are visited in key order and the first value that its field rejects is
reported; only then do the fields take their values in declaration order, and the first required
field without a member is reported. Members that name no field are ignored. From an array the fields
take the items one by one. A document is checked in the order of its text, where a field may not
come twice.

A `Flattened` record shares its object with an inner record: it reads from objects only, its own
fields first.
-/
import FaultCodes.Record.Codec

namespace FaultCodes.Record

open FaultCodes.Json

/-- a field: its name, its type, and the values it takes when an object has no such member
(`absent`) and when an array ends before it (`short`), if it may be left out at all -/
structure Field (α : Type) where
  name : Text
  codec : Codec α
  absent : Option α
  short : Option α

namespace Field

def required {α : Type} (name : Text) (codec : Codec α) : Field α :=
  ⟨name, codec, none, none⟩

/-- a field that may be null or absent in an object -/
def optional {α : Type} (name : Text) (codec : Codec α) : Field (Option α) :=
  ⟨name, codec.nullable, some none, none⟩

/-- a field that takes a fixed value when it is left out of an object or an array -/
def defaulted {α : Type} (name : Text) (codec : Codec α) (value : α) : Field α :=
  ⟨name, codec, some value, some value⟩

end Field

/-- the fields of a record, the last one outermost, around the function that builds it -/
inductive Layout : Type → Type 1 where
  | pure {α : Type} (a : α) : Layout α
  | field {α β : Type} (rest : Layout (α → β)) (f : Field α) : Layout β

namespace Layout

/-- the names in declaration order -/
def names : {α : Type} → Layout α → List Text
  | _, .pure _ => []
  | _, .field rest f => rest.names ++ [f.name]

/-- what is wrong with a member, if it names a field and that field rejects its value -/
def memberProblem (key : Text) (value : Json) : {α : Type} → Layout α → Option Problem
  | _, .pure _ => none
  | _, .field rest f =>
    if f.name = key then
      match f.codec.read value with
      | .ok _ => none
      | .error problem => some problem
    else rest.memberProblem key value

def firstProblem {α : Type} (l : Layout α) (ms : Members) : Option Problem :=
  ms.findSome? fun (key, value) => l.memberProblem key value

/-- takes the fields from members in declaration order -/
def build (ms : Members) : {α : Type} → Layout α → Except Problem α
  | _, .pure a => .ok a
  | _, .field rest f => do
    let g ← rest.build ms
    match ms.lookup f.name with
    | some value => (f.codec.read value).map g
    | none =>
      match f.absent with
      | some a => .ok (g a)
      | none => .error (.missing f.name)

def readMembers {α : Type} (l : Layout α) (ms : Members) : Except Problem α :=
  match l.firstProblem (sortMembers ms) with
  | some problem => .error problem
  | none => l.build ms

/-- takes the fields from the items of an array, and returns the items left over -/
def take (tooShort : Problem) : {α : Type} → Layout α → List Json → Except Problem (α × List Json)
  | _, .pure a, js => .ok (a, js)
  | _, .field rest f, js => do
    let (g, js) ← rest.take tooShort js
    match js with
    | j :: js => (f.codec.read j).map fun a => (g a, js)
    | [] =>
      match f.short with
      | some a => .ok (g a, [])
      | none => .error tooShort

/-- reads the fields from the items of an array, none of which may be left over -/
def readItems {α : Type} (record : Text) (l : Layout α) (js : List Json) : Except Problem α := do
  let (a, rest) ← l.take (.tooShort js.length record l.names.length) js
  if rest.isEmpty then .ok a else .error (.tooLong js.length)

/-! ## Checking documents -/

/-- the check of a field's value, if the key names a field -/
def fieldCheck (depth : Nat) (key : Text) :
    {α : Type} → Layout α → Option (Document → Except TextProblem Unit)
  | _, .pure _ => none
  | _, .field rest f =>
    if f.name = key then some (f.codec.check depth) else rest.fieldCheck depth key

/-- whether every field that has to be there is among the keys seen -/
def complete (seen : List Text) : {α : Type} → Layout α → Bool
  | _, .pure _ => true
  | _, .field rest f => rest.complete seen && (f.absent.isSome || seen.contains f.name)

/-- checks the fields against the items of an array, and returns the items left over -/
def checkItems (depth : Nat) : {α : Type} → Layout α → Items → Except TextProblem Items
  | _, .pure _, items => .ok items
  | _, .field rest f, items => do
    match ← rest.checkItems depth items with
    | .item d items => do
      f.codec.check depth d
      return items
    | .stop (some b) => .error (.broken b)
    | .stop none => if f.short.isSome then .ok (.stop none) else .error .rejected

end Layout

/-- checks the members of an object: fields by `fieldCheck` and not twice, other members by `other`;
the keys of both kinds that were met, fields first, are returned at the closing brace -/
def checkEntries (fieldCheck : Text → Option (Document → Except TextProblem Unit))
    (other : Scalar → Document → Except TextProblem Unit) (fields others : List Text) :
    Entries → Except TextProblem (List Text × List Text)
  | .stop none => .ok (fields, others)
  | .stop (some b) => .error (.broken b)
  | .endAfterComma => .error (.broken .ended)
  | .entry key d rest =>
    match key.value with
    | .error b => .error (.broken b)
    | .ok (.str k) =>
      match fieldCheck k with
      | some check =>
        if fields.contains k then .error .rejected
        else do
          check d
          checkEntries fieldCheck other (k :: fields) others rest
      | none => do
        other key d
        checkEntries fieldCheck other fields (k :: others) rest
    | .ok _ => .error (.broken .malformed)

/-- a record: its name in messages, its fields, and how it is written -/
structure Shape (α : Type) where
  name : Text
  layout : Layout α
  write : α → Json

namespace Shape

variable {α : Type}

def read (s : Shape α) : Json → Except Problem α
  | .obj ms => s.layout.readMembers ms
  | .arr js => s.layout.readItems s.name js
  | j => .error (.wrongType (.of j) (structName s.name))

/-- checks the record in a document -/
def check (s : Shape α) (depth : Nat) : Document → Except TextProblem Unit
  | .obj entries => do
    let inner ← Codec.enter depth
    let (seen, _) ←
      checkEntries (s.layout.fieldCheck inner · ) (fun _ d => orBroken d.skip) [] [] entries
    if s.layout.complete seen then .ok () else .error .rejected
  | .arr items => do
    let inner ← Codec.enter depth
    match ← s.layout.checkItems inner items with
    | .stop none => .ok ()
    | .stop (some b) => .error (.broken b)
    | .item _ _ => .error (.broken .malformed)
  | d => Codec.checkScalar (α := α) (fun j => .error (.wrongType (.of j) (structName s.name))) d

def codec (s : Shape α) : Codec α :=
  ⟨s.read, s.write, s.check⟩

end Shape

/-- a record that shares its object with an inner record -/
structure Flattened (β α : Type) where
  name : Text
  own : Layout (β → α)
  innerNames : List Text
  readInner : Members → Except Problem β
  write : α → Json

namespace Flattened

variable {β α : Type}

/-- reads the record from an object: its own fields, then the inner record -/
def read (s : Flattened β α) : Json → Except Problem α
  | .obj ms => do
    let g ← s.own.readMembers ms
    let b ← s.readInner ms
    return g b
  | j => .error (.wrongType (.of j) (structName s.name))

/-- whether a text occurs twice -/
def repeats : List Text → Bool
  | [] => false
  | t :: ts => ts.contains t || repeats ts

/-- checks the record in a document; the members that are not its own are read as they are met, and
only at the closing brace is the inner record made of them, from objects that keep repeated keys -/
def check (s : Flattened β α) (depth : Nat) : Document → Except TextProblem Unit
  | .obj entries => do
    let inner ← Codec.enter depth
    let (seen, others) ← checkEntries (s.own.fieldCheck inner · )
      (fun _ d => (orBroken (d.value inner)).map fun _ => ()) [] [] entries
    if s.own.complete seen && !repeats (others.filter s.innerNames.contains) &&
        (s.readInner entries.verbatim).isOk then
      .ok ()
    else .error .rejected
  | d => Codec.checkScalar (α := α) (fun j => .error (.wrongType (.of j) (structName s.name))) d

def codec (s : Flattened β α) : Codec α :=
  ⟨s.read, s.write, s.check⟩

end Flattened

end FaultCodes.Record
