/-
Documents: JSON text as a tree that keeps what the text says, in the order in which it says it.

Repeated keys stay, and where the text breaks the tree holds the break: everything before it is
there. So a reader that walks the tree in order meets breaks and values that it rejects in the order
of the text, and the first of them decides. `Document.value` reads any value, nested at most 127
levels deep; `Json.parse` reads a whole text.
-/
import FaultCodes.Json.Scalar

namespace FaultCodes.Json

mutual

/-- a value in a text; `broken` when the text breaks before it starts, `null` when it has the first
letter of that word -/
inductive Document where
  | broken (b : Break)
  | null (s : Scalar)
  | str (s : Scalar)
  | scalar (s : Scalar)
  | arr (items : Items)
  | obj (entries : Entries)

/-- the items of an array; `stop none` is its closing bracket, `stop (some b)` a break before it -/
inductive Items where
  | stop (b : Option Break)
  | item (d : Document) (rest : Items)

/-- the members of an object; `stop none` is its closing brace, `stop (some b)` a break before it -/
inductive Entries where
  | stop (b : Option Break)
  | endAfterComma
  | entry (key : Scalar) (value : Document) (rest : Entries)

end

def isSpace (c : Char) : Bool :=
  c = ' ' || c = '\n' || c = '\t' || c = '\r'

def skipSpace (t : Text) : Text :=
  t.dropWhile isSpace

namespace Document

/-- what is left to scan, nothing after a break -/
abbrev Rest := Option Text

mutual

/-- the value that starts here -/
def scan : Nat → Text → Document × Rest
  | 0, _ => (.broken .ended, none)
  | fuel + 1, t =>
    match skipSpace t with
    | '[' :: t =>
      let (items, rest) := scanItems fuel true t
      (.arr items, rest)
    | '\x7b' :: t =>
      let (entries, rest) := scanEntries fuel true t
      (.obj entries, rest)
    | [] => (.broken .ended, none)
    | '"' :: t =>
      let (s, rest) := Scalar.string t
      (.str s, rest)
    | 'n' :: t =>
      let (s, rest) := Scalar.read ('n' :: t)
      (.null s, rest)
    | t =>
      let (s, rest) := Scalar.read t
      (.scalar s, rest)

/-- the items up to the closing bracket -/
def scanItems : Nat → Bool → Text → Items × Rest
  | 0, _, _ => (.stop (some .ended), none)
  | fuel + 1, first, t =>
    match skipSpace t with
    | [] => (.stop (some .ended), none)
    | ']' :: t => (.stop none, some t)
    | c :: t =>
      if first then scanItem fuel (c :: t)
      else if c = ',' then
        match skipSpace t with
        | ']' :: _ => (.stop (some .malformed), none)
        | t => scanItem fuel t
      else (.stop (some .malformed), none)

/-- one item and those after it -/
def scanItem : Nat → Text → Items × Rest
  | 0, _ => (.stop (some .ended), none)
  | fuel + 1, t =>
    match scan fuel t with
    | (d, none) => (.item d (.stop none), none)
    | (d, some t) =>
      let (items, rest) := scanItems fuel false t
      (.item d items, rest)

/-- the members up to the closing brace -/
def scanEntries : Nat → Bool → Text → Entries × Rest
  | 0, _, _ => (.stop (some .ended), none)
  | fuel + 1, first, t =>
    match skipSpace t with
    | [] => (.stop (some .ended), none)
    | '\x7d' :: t => (.stop none, some t)
    | c :: t =>
      if first then scanEntry fuel (c :: t)
      else if c = ',' then
        match skipSpace t with
        | [] => (.endAfterComma, none)
        | '\x7d' :: _ => (.stop (some .malformed), none)
        | t => scanEntry fuel t
      else (.stop (some .malformed), none)

/-- one member and those after it -/
def scanEntry : Nat → Text → Entries × Rest
  | 0, _ => (.stop (some .ended), none)
  | fuel + 1, '"' :: t =>
    match Scalar.string t with
    | (key, none) => (.entry key (.broken .ended) (.stop none), none)
    | (key, some t) =>
      match skipSpace t with
      | [] => (.entry key (.broken .ended) (.stop none), none)
      | ':' :: t =>
        match scan fuel t with
        | (d, none) => (.entry key d (.stop none), none)
        | (d, some t) =>
          let (entries, rest) := scanEntries fuel false t
          (.entry key d entries, rest)
      | _ => (.entry key (.broken .malformed) (.stop none), none)
  | _, _ => (.stop (some .malformed), none)

end

/-- the document of a text, and what follows it -/
def ofText (t : Text) : Document × Rest :=
  scan (3 * t.length + 3) t

end Document

/-- the nesting allowed is one less than this -/
def nestingLimit : Nat := 128

mutual

/-- reads any value; `depth` levels of nesting are still allowed, the last of them not entered -/
def Document.value (depth : Nat) : Document → Except Break Json
  | .broken b => .error b
  | .null s | .str s | .scalar s => s.value
  | .arr items => if depth ≤ 1 then .error .malformed else (items.values (depth - 1)).map .arr
  | .obj entries =>
    if depth ≤ 1 then .error .malformed else (entries.members (depth - 1) []).map .obj

/-- reads the items up to the closing bracket -/
def Items.values (depth : Nat) : Items → Except Break (List Json)
  | .stop none => .ok []
  | .stop (some b) => .error b
  | .item d rest => do
    let v ← d.value depth
    let vs ← rest.values depth
    return v :: vs

/-- reads the members up to the closing brace into those read before -/
def Entries.members (depth : Nat) (before : Members) : Entries → Except Break Members
  | .stop none => .ok before
  | .stop (some b) => .error b
  | .endAfterComma => .error .ended
  | .entry key d rest =>
    match key.value with
    | .error b => .error b
    | .ok (.str k) => do
      let v ← d.value depth
      rest.members depth (insert k v before)
    | .ok _ => .error .malformed

end

mutual

def Document.skip : Document → Except Break Unit
  | .broken b => .error b
  | .null s | .str s | .scalar s => s.skipped
  | .arr items => items.skip
  | .obj entries => entries.skip

def Items.skip : Items → Except Break Unit
  | .stop none => .ok ()
  | .stop (some b) => .error b
  | .item d rest => do
    d.skip
    rest.skip

def Entries.skip : Entries → Except Break Unit
  | .stop none => .ok ()
  | .stop (some b) => .error b
  | .endAfterComma => .error .ended
  | .entry key d rest => do
    key.skipped
    d.skip
    rest.skip

end

mutual

/-- the value of a document that was found good; parts that were only skipped may count as null -/
def Document.json : Document → Json
  | .broken _ | .null _ => .null
  | .str s | .scalar s => s.value.toOption.getD .null
  | .arr items => .arr items.json
  | .obj entries => .obj (entries.json [])

def Items.json : Items → List Json
  | .stop _ => []
  | .item d rest => d.json :: rest.json

/-- the members, on top of those before them -/
def Entries.json (before : Members) : Entries → Members
  | .entry key d rest =>
    match key.value with
    | .ok (.str k) => rest.json (insert k d.json before)
    | _ => rest.json before
  | _ => before

end

mutual

/-- the value of a document with every member of its objects, repeated keys included, in the order
of the text -/
def Document.verbatim : Document → Json
  | .broken _ | .null _ => .null
  | .str s | .scalar s => s.value.toOption.getD .null
  | .arr items => .arr items.verbatim
  | .obj entries => .obj entries.verbatim

def Items.verbatim : Items → List Json
  | .stop _ => []
  | .item d rest => d.verbatim :: rest.verbatim

def Entries.verbatim : Entries → Members
  | .entry key d rest =>
    match key.value with
    | .ok (.str k) => (k, d.verbatim) :: rest.verbatim
    | _ => rest.verbatim
  | _ => []

end

/-- nothing but spaces may follow a value -/
def atEnd : Document.Rest → Except Break Unit
  | none => .ok ()
  | some t => if (skipSpace t).isEmpty then .ok () else .error .malformed

def parse (t : Text) : Except Break Json := do
  let (d, rest) := Document.ofText t
  let v ← d.value nestingLimit
  atEnd rest
  return v

end FaultCodes.Json
