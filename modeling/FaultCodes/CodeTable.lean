/-
Code tables: the names of one origin with their codes.

`CodeTable.ofEntries?` refuses a list with a repeated name, so that a lookup has one answer. A table
may hold codes outside its origin's block: `lookup` shows them, `codeFor` and `fallback` do not, so
no code of a foreign block ever leaves a table. `check` is the acceptance test for a list of
entries: not empty, every code in the block, and codes that run downward without a gap. It works in
32-bit words and reports a step that leaves their range.
-/
import FaultCodes.ErrorCode

namespace FaultCodes

/-- a name and its code -/
abbrev Entry := Text × Int32

/-- the name under which a table declares the code of names it does not list -/
def unknownKey : Text := "UNKNOWN"

/-- the names of one origin, in code order -/
structure CodeTable where
  origin : Origin
  entries : List Entry
  deriving DecidableEq

/-- a list of entries in which some name is repeated -/
structure RepeatedName where
  distinct : Nat
  entries : Nat
  deriving DecidableEq, Repr

def RepeatedName.message (e : RepeatedName) : Text :=
  "assertion `left == right` failed: duplicate type name\n  left: " ++ Decimal.ofNat e.distinct ++
    "\n right: " ++ Decimal.ofNat e.entries

namespace CodeTable

def distinctNames : List Entry → Nat
  | [] => 0
  | e :: es => (if es.any (·.1 = e.1) then 0 else 1) + distinctNames es

/-- the table over a list of entries whose names are all different -/
def ofEntries? (o : Origin) (entries : List Entry) : Except RepeatedName CodeTable :=
  if distinctNames entries = entries.length then .ok ⟨o, entries⟩
  else .error ⟨distinctNames entries, entries.length⟩

def lookup (t : CodeTable) (name : Text) : Option Int32 :=
  t.entries.lookup name

/-- the code listed for a name, when it lies in the origin's block -/
def codeFor (t : CodeTable) (name : Text) : Option ErrorCode :=
  (t.lookup name).bind fun value => (ErrorCode.ofValue? t.origin value).toOption

/-- the code listed for unknown names -/
def unknown (t : CodeTable) : Option Int32 :=
  t.lookup unknownKey

/-- the code for a name that is not listed: the declared one, else the floor -/
def fallback (t : CodeTable) : ErrorCode :=
  (t.codeFor unknownKey).getD (.unknown t.origin)

def size (t : CodeTable) : Nat :=
  t.entries.length

end CodeTable

/-- an arithmetic step that leaves the 32-bit words -/
inductive Overflow where
  | position
  | difference
  deriving DecidableEq, Repr

namespace CodeTable

/-- the position of an entry as a word -/
def position (i : Nat) : Except Overflow Int32 :=
  if i < 0x80000000 then .ok (Int32.ofNat i) else .error .position

def difference (a b : Int32) : Except Overflow Int32 :=
  if -0x80000000 ≤ a.toInt - b.toInt ∧ a.toInt - b.toInt < 0x80000000 then .ok (a - b)
  else .error .difference

/-- checks the entries from position `i` on against the first code of the list -/
def checkFrom (o : Origin) (first : Int32) : Nat → List Entry → Except Overflow Bool
  | _, [] => .ok true
  | i, (_, code) :: es =>
    if o.contains code then do
      let expected ← difference first (← position i)
      if code = expected then checkFrom o first (i + 1) es else .ok false
    else .ok false

/-- the acceptance test: some entry, all codes in the block, each one below the one before by one -/
def check (o : Origin) : List Entry → Except Overflow Bool
  | [] => .ok false
  | e :: es => checkFrom o e.2 0 (e :: es)

/-- whether the test is passed -/
def accepts (o : Origin) (entries : List Entry) : Bool :=
  match check o entries with
  | .ok passed => passed
  | .error _ => false

end CodeTable

end FaultCodes
