/-
Origins: the layer of the stack that a failure comes from, and the block of codes that each layer
owns.

A block is a run of a thousand negative integers, from its floor downward. The seven blocks are
disjoint, so a code says which layer it belongs to (`ofCode?_eq_some_iff`).
-/
import FaultCodes.Text

namespace FaultCodes

/-- the layer that raised a failure, deepest block first -/
inductive Origin where
  | builtin
  | driver
  | framework
  | application
  | dbLibrary
  | toolkit
  | other
  deriving DecidableEq, Repr

def blockSize : Int32 := 1000

namespace Origin

/-- every origin, deepest block first -/
def all : List Origin :=
  [builtin, driver, framework, application, dbLibrary, toolkit, other]

/-- the round code at the top of the block -/
def floor : Origin → Int32
  | builtin => -31000
  | driver => -30000
  | framework => -29000
  | application => -28000
  | dbLibrary => -27000
  | toolkit => -26000
  | other => -25000

/-- the deepest code of the block -/
def last (o : Origin) : Int32 :=
  o.floor - (blockSize - 1)

def contains (o : Origin) (code : Int32) : Bool :=
  code ≤ o.floor && o.last ≤ code

def ofCode? (code : Int32) : Option Origin :=
  all.find? (·.contains code)

def label : Origin → Text
  | builtin => "BUILTIN"
  | driver => "DRIVER"
  | framework => "FRAMEWORK"
  | application => "APP"
  | dbLibrary => "DBLIB"
  | toolkit => "TOOLKIT"
  | other => "OTHER"

def name : Origin → Text
  | builtin => "Builtin"
  | driver => "Driver"
  | framework => "Framework"
  | application => "Application"
  | dbLibrary => "DbLibrary"
  | toolkit => "Toolkit"
  | other => "Other"

/-- whether failures of this origin usually mean a bad request rather than a broken server -/
def callerFacing : Origin → Bool
  | application => true
  | toolkit => true
  | _ => false

/-- place in the order of `all` -/
def rank : Origin → Nat
  | builtin => 0
  | driver => 1
  | framework => 2
  | application => 3
  | dbLibrary => 4
  | toolkit => 5
  | other => 6

/-- ordered as in `all`, equal ones kept -/
def sort (os : List Origin) : List Origin :=
  os.mergeSort fun a b => a.rank ≤ b.rank

/-- The bounds of a block as integers. -/
theorem contains_iff (o : Origin) (code : Int32) :
    o.contains code = true ↔ o.floor.toInt - 999 ≤ code.toInt ∧ code.toInt ≤ o.floor.toInt := by
  have h : o.last.toInt = o.floor.toInt - 999 := by cases o <;> decide
  simp only [contains, Bool.and_eq_true, decide_eq_true_eq, Int32.le_iff_toInt_le, h]
  exact and_comm

/-- The floor itself is in the block. -/
theorem contains_floor (o : Origin) : o.contains o.floor = true := by
  cases o <;> decide

/-- A code lies in at most one block. -/
theorem eq_of_contains {o p : Origin} {code : Int32} (ho : o.contains code = true)
    (hp : p.contains code = true) : o = p := by
  rw [contains_iff] at ho hp
  have hb : (builtin.floor.toInt = -31000) ∧ (driver.floor.toInt = -30000) ∧
      (framework.floor.toInt = -29000) ∧ (application.floor.toInt = -28000) ∧
      (dbLibrary.floor.toInt = -27000) ∧ (toolkit.floor.toInt = -26000) ∧
      (other.floor.toInt = -25000) := by decide
  cases o <;> cases p <;> first | rfl | omega

/-- The block found for a code contains it. -/
theorem contains_of_ofCode? {o : Origin} {code : Int32} (h : ofCode? code = some o) :
    o.contains code = true := by
  unfold ofCode? at h
  have found := List.find?_some h
  exact found

/-- The block of a code is the one that contains it. -/
theorem ofCode?_eq_some_iff {o : Origin} {code : Int32} :
    ofCode? code = some o ↔ o.contains code = true := by
  refine ⟨contains_of_ofCode?, fun h => ?_⟩
  have hm : o ∈ all := by cases o <;> decide
  cases hf : ofCode? code with
  | none =>
    unfold ofCode? at hf
    exact absurd h (List.find?_eq_none.1 hf o hm)
  | some p => rw [eq_of_contains h (contains_of_ofCode? hf)]

end Origin

end FaultCodes
