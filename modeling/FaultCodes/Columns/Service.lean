/-
The column methods.

Settings are kept by a store, one record for each database, table and column. `setJson` takes the
records as JSON: they are read first, all of them, and the store is asked only when every one is
good.
-/
import FaultCodes.Tables.Service
import FaultCodes.Columns.Settings

namespace FaultCodes

open FaultCodes.Record

/-- keeps the settings of columns -/
structure ColumnStore (σ : Type) where
  list : (database : Int64) → (table : Int64) → Answer σ (List ColumnSettings)
  get : (database : Int64) → (table : Int64) → (attnum : Int64) → Answer σ (Option ColumnSettings)
  set : (database : Int64) → List ColumnSettings → Answer σ Unit

namespace Columns

variable {σ : Type}

def listMethod : Text := "columns.metadata.list"

def setMethod : Text := "columns.metadata.set"

def list (s : ColumnStore σ) (database table : Int64) : Call σ (List ColumnSettings) :=
  handle listMethod (ask (s.list database table))

def set (s : ColumnStore σ) (database : Int64) (records : List ColumnSettings) : Call σ Unit :=
  handle setMethod (ask (s.set database records))

def readRecords (v : Json) : Except Failure (List ColumnSettings) :=
  ((Codec.list ColumnSettings.shape.codec).read v).mapError (·.failure)

/-- stores settings given as JSON -/
def setJson (s : ColumnStore σ) (database : Int64) (v : Json) : Call σ Unit := do
  let records ← handle setMethod (settled (readRecords v))
  set s database records

end Columns

end FaultCodes
