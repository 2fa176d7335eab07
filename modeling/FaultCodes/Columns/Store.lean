/-
A column store in memory: rows ordered by database, table and column, one for each key. While it is
out of order it answers every question with the same failure and changes nothing.
-/
import FaultCodes.Columns.Service

namespace FaultCodes

/-- the rows of the store, and the failure it answers with while it is out of order -/
structure ColumnRows where
  rows : List (Int64 × ColumnSettings)
  failing : Option Failure

namespace ColumnRows

/-- nothing stored, in order -/
def empty : ColumnRows :=
  ⟨[], none⟩

/-- whether a row comes before the key of another -/
def before (a b : Int64 × ColumnSettings) : Bool :=
  a.1 < b.1 || (a.1 = b.1 &&
    (a.2.tableOid < b.2.tableOid || (a.2.tableOid = b.2.tableOid && a.2.attnum < b.2.attnum)))

/-- puts a row in its place, in the place of the one with the same key if there is one -/
def put (row : Int64 × ColumnSettings) :
    List (Int64 × ColumnSettings) → List (Int64 × ColumnSettings)
  | [] => [row]
  | r :: rows =>
    if before row r then row :: r :: rows
    else if before r row then r :: put row rows
    else row :: rows

/-- answers when the store is in order -/
def answering {α : Type} (answer : ColumnRows → α × ColumnRows) : Answer ColumnRows α := fun s =>
  match s.failing with
  | some f => (.error f, s)
  | none => (.ok (answer s).1, (answer s).2)

/-- the settings of a table's columns, by column number -/
def listOf (s : ColumnRows) (database table : Int64) : List ColumnSettings :=
  (s.rows.filter fun r => r.1 = database && r.2.tableOid = table).map Prod.snd

def store : ColumnStore ColumnRows where
  list database table := answering fun s => (s.listOf database table, s)
  get database table attnum := answering fun s =>
    ((s.listOf database table).find? (·.attnum = attnum), s)
  set database records := answering fun s =>
    ((), { s with rows := records.foldl (fun rows r => put (database, r) rows) s.rows })

/-- the store answering every question with `failing` from now on, or in order again -/
def setFailing (s : ColumnRows) (failing : Option Failure) : ColumnRows :=
  { s with failing := failing }

end ColumnRows

end FaultCodes
