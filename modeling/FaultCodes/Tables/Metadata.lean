/-
Blobs stored alongside tables, and the join of tables with their blobs.

`attach` gives every table of a list the blob of its oid. The records are first collected by their oids, and of several
records for one oid the last counts. A blob is then handed out once: it goes to the first table with that oid.
-/
import FaultCodes.Tables.Joinable

namespace FaultCodes

open FaultCodes.Record

/-- a blob stored for a table -/
structure TableMetadata where
  tableOid : Int64
  blob : Json
  deriving DecidableEq, Repr

namespace TableMetadata

def shape : Shape TableMetadata where
  name := "TableMetadata"
  layout :=
    Layout.pure TableMetadata.mk
      |>.field (.required "table_oid" .int64)
      |>.field (.required "blob" .any)
  write m := .obj [("table_oid", Codec.int64.write m.tableOid), ("blob", m.blob)]

def inspect (m : TableMetadata) : Text :=
  Inspect.record "TableMetadata" [("table_oid", inspectInt64 m.tableOid), ("blob", m.blob.inspect)]

end TableMetadata

/-- the blobs at hand, by the oid of their table -/
abbrev Blobs := Int64 → Option Json

namespace Blobs

/-- one more record, in the place of an earlier one for its oid -/
def insert (b : Blobs) (r : TableMetadata) : Blobs := fun oid =>
  if oid = r.tableOid then some r.blob else b oid

@[simp] theorem insert_self (b : Blobs) (r : TableMetadata) : b.insert r r.tableOid = some r.blob :=
  if_pos rfl

theorem insert_of_ne (b : Blobs) {r : TableMetadata} {oid : Int64} (h : oid ≠ r.tableOid) :
    b.insert r oid = b oid :=
  if_neg h

def remove (b : Blobs) (oid : Int64) : Blobs := fun other =>
  if other = oid then none else b other

@[simp] theorem remove_self (b : Blobs) (oid : Int64) : b.remove oid oid = none :=
  if_pos rfl

theorem remove_of_ne (b : Blobs) {oid other : Int64} (h : other ≠ oid) :
    b.remove oid other = b other :=
  if_neg h

def collect (records : List TableMetadata) : Blobs :=
  records.foldl insert fun _ => none

end Blobs

/-- a table with its blob, if one is stored -/
structure TableWithMetadata where
  table : TableInfo
  metadata : Option Json
  deriving DecidableEq, Repr

namespace TableWithMetadata

/-- the member of its own; null when no blob is stored -/
def ownMembers (t : TableWithMetadata) : Json.Members :=
  [("metadata", t.metadata.getD .null)]

/-- the record, which shares its object with the table record -/
def shape : Flattened TableInfo TableWithMetadata where
  name := "TableWithMetadata"
  own :=
    Layout.pure (fun metadata table => TableWithMetadata.mk table metadata)
      |>.field (.optional "metadata" .any)
  innerNames := (TableInfo.layout true).names
  readInner := (TableInfo.layout true).readMembers
  write t := .obj (t.table.members ++ t.ownMembers)

def inspect (t : TableWithMetadata) : Text :=
  Inspect.record "TableWithMetadata"
    [("table", t.table.inspect), ("metadata", Inspect.option Json.inspect t.metadata)]

/-- the tables in order, each with the blob of its oid, which is gone from then on -/
def handOut : Blobs → List TableInfo → List TableWithMetadata
  | _, [] => []
  | b, t :: ts => ⟨t, b t.oid⟩ :: handOut (b.remove t.oid) ts

/-- the tables in order with their blobs, each blob handed out once -/
def attach (records : List TableMetadata) (tables : List TableInfo) : List TableWithMetadata :=
  handOut (.collect records) tables

end TableWithMetadata

end FaultCodes
