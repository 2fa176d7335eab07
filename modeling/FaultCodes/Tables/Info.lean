/-
What a catalog says of a table, and its JSON form.

The table record can share its object with other fields; its privileges then accept one more form
(`loose`): an empty object in the place of null.
-/
import FaultCodes.Record.Layout

namespace FaultCodes

open FaultCodes.Record

/-- privileges of the current role on a table -/
inductive Privilege where
  | select
  | insert
  | update
  | delete
  | truncate
  | references
  | trigger
  deriving DecidableEq, Repr

namespace Privilege

def all : List Privilege :=
  [select, insert, update, delete, truncate, references, trigger]

def name : Privilege → Text
  | select => "SELECT"
  | insert => "INSERT"
  | update => "UPDATE"
  | delete => "DELETE"
  | truncate => "TRUNCATE"
  | references => "REFERENCES"
  | trigger => "TRIGGER"

def inspect : Privilege → Text
  | select => "Select"
  | insert => "Insert"
  | update => "Update"
  | delete => "Delete"
  | truncate => "Truncate"
  | references => "References"
  | trigger => "Trigger"

def codec (loose : Bool) : Codec Privilege :=
  Variants.codec ⟨all, name⟩ loose

end Privilege

def inspectInt64 (n : Int64) : Text :=
  Decimal.ofInt n.toInt

/-- a table as the catalog describes it -/
structure TableInfo where
  oid : Int64
  name : Text
  schema : Int64
  description : Option Text
  ownerOid : Int64
  privileges : List Privilege
  owned : Bool
  deriving DecidableEq, Repr

namespace TableInfo

def layout (loose : Bool) : Layout TableInfo :=
  Layout.pure TableInfo.mk
    |>.field (.required "oid" .int64)
    |>.field (.required "name" .text)
    |>.field (.required "schema" .int64)
    |>.field (.optional "description" .text)
    |>.field (.required "owner_oid" .int64)
    |>.field (.required "current_role_priv" (.list (Privilege.codec loose)))
    |>.field (.required "current_role_owns" .bool)

/-- members in declaration order -/
def members (t : TableInfo) : Json.Members :=
  [("oid", Codec.int64.write t.oid), ("name", .str t.name), ("schema", Codec.int64.write t.schema),
   ("description", .ofText? t.description), ("owner_oid", Codec.int64.write t.ownerOid),
   ("current_role_priv", .ofTexts (t.privileges.map Privilege.name)),
   ("current_role_owns", .bool t.owned)]

/-- the record on its own -/
def shape : Shape TableInfo :=
  ⟨"TableInfo", layout false, fun t => .obj t.members⟩

def inspect (t : TableInfo) : Text :=
  Inspect.record "TableInfo"
    [("oid", inspectInt64 t.oid), ("name", Text.quoted t.name), ("schema", inspectInt64 t.schema),
     ("description", Inspect.option Text.quoted t.description),
     ("owner_oid", inspectInt64 t.ownerOid),
     ("current_role_priv", Inspect.list (t.privileges.map Privilege.inspect)),
     ("current_role_owns", Inspect.bool t.owned)]

end TableInfo

/-- a table just created -/
structure AddedTable where
  oid : Int64
  name : Text
  deriving DecidableEq, Repr

namespace AddedTable

def shape : Shape AddedTable where
  name := "AddedTableInfo"
  layout :=
    Layout.pure AddedTable.mk
      |>.field (.required "oid" .int64)
      |>.field (.required "name" .text)
  write t := .obj [("oid", Codec.int64.write t.oid), ("name", .str t.name)]

def inspect (t : AddedTable) : Text :=
  Inspect.record "AddedTableInfo" [("oid", inspectInt64 t.oid), ("name", Text.quoted t.name)]

end AddedTable

end FaultCodes
