/-
What a caller sends: a new table, changes to a table, an import.

In a change request a field that is left out is left alone. The description has three states: left
out, null to clear it, or a new text; so it is an option of an option. Null for the name or the
columns counts as left out.
-/
import FaultCodes.Tables.Info

namespace FaultCodes

open FaultCodes.Record

def inspectJsons (js : List Json) : Text :=
  Inspect.list (Json.inspectItems js)

/-- changes to a table -/
structure TableChanges where
  name : Option Text
  description : Option (Option Text)
  columns : Option (List Json)
  deriving DecidableEq, Repr

namespace TableChanges

/-- a member for a value that is there -/
def member? {α : Type} (name : Text) (write : α → Json) : Option α → Json.Members
  | none => []
  | some a => [(name, write a)]

/-- members in declaration order; what is left out has none -/
def members (c : TableChanges) : Json.Members :=
  member? "name" Json.str c.name ++ member? "description" Json.ofText? c.description ++
    member? "columns" Json.arr c.columns

def shape : Shape TableChanges where
  name := "SettableTableInfo"
  layout :=
    Layout.pure TableChanges.mk
      |>.field (.defaulted "name" (.nullable .text) none)
      |>.field (.defaulted "description" (.present (.nullable .text)) none)
      |>.field (.defaulted "columns" (.nullable (.list .any)) none)
  write c := .obj c.members

def inspect (c : TableChanges) : Text :=
  Inspect.record "SettableTableInfo"
    [("name", Inspect.option Text.quoted c.name),
     ("description", Inspect.option (Inspect.option Text.quoted) c.description),
     ("columns", Inspect.option inspectJsons c.columns)]

end TableChanges

/-- a table to create; the catalog picks a name when none is given -/
structure NewTable where
  name : Option Text
  columns : List Json
  constraints : List Json
  comment : Option Text
  deriving DecidableEq, Repr

namespace NewTable

def shape : Shape NewTable where
  name := "NewTable"
  layout :=
    Layout.pure NewTable.mk
      |>.field (.defaulted "table_name" (.nullable .text) none)
      |>.field (.defaulted "column_data_list" (.list .any) [])
      |>.field (.defaulted "constraint_data_list" (.list .any) [])
      |>.field (.defaulted "comment" (.nullable .text) none)
  write t := .obj
    [("table_name", .ofText? t.name), ("column_data_list", .arr t.columns),
     ("constraint_data_list", .arr t.constraints),
     ("comment", .ofText? t.comment)]

def inspect (t : NewTable) : Text :=
  Inspect.record "NewTable"
    [("table_name", Inspect.option Text.quoted t.name),
     ("column_data_list", inspectJsons t.columns),
     ("constraint_data_list", inspectJsons t.constraints),
     ("comment", Inspect.option Text.quoted t.comment)]

end NewTable

/-- a table to make from an uploaded data file -/
structure ImportRequest where
  dataFileId : Int64
  name : Option Text
  comment : Option Text
  deriving DecidableEq, Repr

namespace ImportRequest

def shape : Shape ImportRequest where
  name := "ImportRequest"
  layout :=
    Layout.pure ImportRequest.mk
      |>.field (.required "data_file_id" .int64)
      |>.field (.defaulted "table_name" (.nullable .text) none)
      |>.field (.defaulted "comment" (.nullable .text) none)
  write r := .obj
    [("data_file_id", Codec.int64.write r.dataFileId), ("table_name", .ofText? r.name),
     ("comment", .ofText? r.comment)]

def inspect (r : ImportRequest) : Text :=
  Inspect.record "ImportRequest"
    [("data_file_id", inspectInt64 r.dataFileId), ("table_name", Inspect.option Text.quoted r.name),
     ("comment", Inspect.option Text.quoted r.comment)]

end ImportRequest

end FaultCodes
