/-
Tables within reach of joins from one table, each with the path that leads to it.
-/
import FaultCodes.Tables.Request

namespace FaultCodes

open FaultCodes.Record

/-- one path of joins from a base table to a target table -/
structure JoinPath where
  base : Int64
  target : Int64
  columns : List Json
  foreignKeys : List Json
  depth : UInt32
  multipleResults : Bool
  deriving DecidableEq, Repr

namespace JoinPath

def shape : Shape JoinPath where
  name := "JoinableTableRecord"
  layout :=
    Layout.pure JoinPath.mk
      |>.field (.required "base" .int64)
      |>.field (.required "target" .int64)
      |>.field (.required "join_path" (.list .any))
      |>.field (.required "fkey_path" (.list .any))
      |>.field (.required "depth" .uint32)
      |>.field (.required "multiple_results" .bool)
  write p := .obj
    [("base", Codec.int64.write p.base), ("target", Codec.int64.write p.target),
     ("join_path", .arr p.columns),
     ("fkey_path", .arr p.foreignKeys), ("depth", Codec.uint32.write p.depth),
     ("multiple_results", .bool p.multipleResults)]

def inspect (p : JoinPath) : Text :=
  Inspect.record "JoinableTableRecord"
    [("base", inspectInt64 p.base), ("target", inspectInt64 p.target),
     ("join_path", inspectJsons p.columns),
     ("fkey_path", inspectJsons p.foreignKeys), ("depth", Decimal.ofNat p.depth.toNat),
     ("multiple_results", Inspect.bool p.multipleResults)]

end JoinPath

/-- every path from one base table, with what is known of the targets -/
structure JoinableTables where
  paths : List JoinPath
  targets : Json
  deriving DecidableEq, Repr

namespace JoinableTables

def shape : Shape JoinableTables where
  name := "JoinableTableInfo"
  layout :=
    Layout.pure JoinableTables.mk
      |>.field (.required "joinable_tables" (.list JoinPath.shape.codec))
      |>.field (.required "target_table_info" .any)
  write t := .obj
    [("joinable_tables", (Codec.list JoinPath.shape.codec).write t.paths),
     ("target_table_info", t.targets)]

def inspect (t : JoinableTables) : Text :=
  Inspect.record "JoinableTableInfo"
    [("joinable_tables", Inspect.list (t.paths.map JoinPath.inspect)),
     ("target_table_info", t.targets.inspect)]

end JoinableTables

end FaultCodes
