/-
Method calls as data, and runs of them.

A `Request` names a method and carries its arguments; `Request.call` is the call it stands for and
`Reply` what it answers with. `serve` answers a run of requests one after the other: the
collaborators keep their state from one request to the next, and every answer comes with the events
that its own call emitted.
-/
import FaultCodes.Tables.Service
import FaultCodes.Columns.Service

namespace FaultCodes

/-- everything the methods ask questions of -/
structure Collaborators (σ τ : Type) where
  catalog : Catalog σ τ
  metadata : MetadataStore σ
  columns : ColumnStore σ

/-- a method with its arguments -/
inductive Request where
  | list (database : Int64) (user : Text) (schema : Int64)
  | get (database : Int64) (user : Text) (oid : Int64)
  | add (database : Int64) (user : Text) (schema : Int64) (new : NewTable)
  | delete (database : Int64) (user : Text) (oid : Int64) (cascade : Bool)
  | patch (database : Int64) (user : Text) (oid : Int64) (changes : TableChanges)
  | importFile (database : Int64) (user : Text) (schema : Int64) (request : ImportRequest)
  | importPreview (database : Int64) (user : Text) (oid : Int64) (columns : List Json)
    (limit : Option UInt32)
  | listJoinable (database : Int64) (user : Text) (oid : Int64) (depth : Option UInt32)
  | listWithMetadata (database : Int64) (user : Text) (schema : Int64)
  | getWithMetadata (database : Int64) (user : Text) (oid : Int64)
  | listColumns (database : Int64) (table : Int64)
  | setColumns (database : Int64) (records : List ColumnSettings)
  | setColumnsJson (database : Int64) (records : Json)
  deriving DecidableEq, Repr

/-- what a method answers with -/
inductive Reply where
  | tables (tables : List TableInfo)
  | table (table : TableInfo)
  | added (table : AddedTable)
  | name (name : Text)
  | rows (rows : List Json)
  | joinable (tables : JoinableTables)
  | tablesWithMetadata (tables : List TableWithMetadata)
  | tableWithMetadata (table : TableWithMetadata)
  | columns (settings : List ColumnSettings)
  | done
  deriving DecidableEq, Repr

def Reply.toJson : Reply → Json
  | tables ts => .arr (ts.map TableInfo.shape.write)
  | table t => TableInfo.shape.write t
  | added t => AddedTable.shape.write t
  | name n => .str n
  | rows js => .arr js
  | joinable t => JoinableTables.shape.write t
  | tablesWithMetadata ts => .arr (ts.map TableWithMetadata.shape.write)
  | tableWithMetadata t => TableWithMetadata.shape.write t
  | columns ss => .arr (ss.map ColumnSettings.shape.write)
  | done => .null

namespace Request

variable {σ τ : Type}

def method : Request → Text
  | list .. => "tables.list"
  | get .. => "tables.get"
  | add .. => "tables.add"
  | delete .. => "tables.delete"
  | patch .. => "tables.patch"
  | importFile .. => "tables.import"
  | importPreview .. => "tables.get_import_preview"
  | listJoinable .. => "tables.list_joinable"
  | listWithMetadata .. => "tables.list_with_metadata"
  | getWithMetadata .. => "tables.get_with_metadata"
  | listColumns .. => "columns.metadata.list"
  | setColumns .. => "columns.metadata.set"
  | setColumnsJson .. => "columns.metadata.set"

/-- the call that a request stands for -/
def call (c : Collaborators σ τ) : Request → Call σ Reply
  | list database user schema => Reply.tables <$> Tables.list c.catalog database user schema
  | get database user oid => Reply.table <$> Tables.get c.catalog database user oid
  | add database user schema new => Reply.added <$> Tables.add c.catalog database user schema new
  | delete database user oid cascade =>
    Reply.name <$> Tables.delete c.catalog database user oid cascade
  | patch database user oid changes =>
    Reply.name <$> Tables.patch c.catalog database user oid changes
  | importFile database user schema request =>
    Reply.added <$> Tables.importFile c.catalog database user schema request
  | importPreview database user oid columns limit =>
    Reply.rows <$> Tables.importPreview c.catalog database user oid columns limit
  | listJoinable database user oid depth =>
    Reply.joinable <$> Tables.listJoinable c.catalog database user oid depth
  | listWithMetadata database user schema =>
    Reply.tablesWithMetadata <$> Tables.listWithMetadata c.catalog c.metadata database user schema
  | getWithMetadata database user oid =>
    Reply.tableWithMetadata <$> Tables.getWithMetadata c.catalog c.metadata database user oid
  | listColumns database table => Reply.columns <$> Columns.list c.columns database table
  | setColumns database records => (fun _ => Reply.done) <$> Columns.set c.columns database records
  | setColumnsJson database records =>
    (fun _ => Reply.done) <$> Columns.setJson c.columns database records

end Request

/-- the answer to one request and the events its call emitted -/
structure Served where
  answer : Except Fault Reply
  events : List Event

/-- answers one request on the state the collaborators are in -/
def serveOne {σ τ : Type} (c : Collaborators σ τ) (state : σ) (r : Request) : Served × σ :=
  let (answer, world) := (r.call c).outcome ⟨state, []⟩
  (⟨answer, world.events⟩, world.backing)

def serve {σ τ : Type} (c : Collaborators σ τ) (state : σ) : List Request → List Served × σ
  | [] => ([], state)
  | r :: rs =>
    let (served, state) := serveOne c state r
    let (rest, state) := serve c state rs
    (served :: rest, state)

end FaultCodes
