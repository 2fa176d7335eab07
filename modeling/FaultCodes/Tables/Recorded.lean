/-
Collaborators that keep a list of what they were asked, in order. Recording changes no answer.
-/
import FaultCodes.Tables.Service

namespace FaultCodes

inductive Question where
  | connect (database : Int64) (user : Text)
  | tables (schema : Int64)
  | table (oid : Int64)
  | create (schema : Int64) (new : NewTable)
  | drop (oid : Int64) (cascade : Bool)
  | alter (oid : Int64) (changes : TableChanges)
  | importFile (schema : Int64) (request : ImportRequest)
  | preview (oid : Int64) (columns : List Json) (limit : UInt32)
  | joinable (oid : Int64) (depth : UInt32)
  | blobs (database : Int64)
  | blob (oid : Int64) (database : Int64)
  deriving DecidableEq, Repr

namespace Question

/-- the question in JSON: its name and its arguments, records in their JSON form -/
def toJson : Question → Json
  | connect database user => .arr [.str "connect", .int database.toInt, .str user]
  | tables schema => .arr [.str "table_info", .int schema.toInt]
  | table oid => .arr [.str "table", .int oid.toInt]
  | create schema new => .arr [.str "create_table", .int schema.toInt, NewTable.shape.write new]
  | drop oid cascade => .arr [.str "drop_table", .int oid.toInt, .bool cascade]
  | alter oid changes => .arr [.str "alter_table", .int oid.toInt, TableChanges.shape.write changes]
  | importFile schema request =>
    .arr [.str "import_csv", .int schema.toInt, ImportRequest.shape.write request]
  | preview oid columns limit =>
    .arr [.str "preview", .int oid.toInt, .arr columns, .int limit.toNat]
  | joinable oid depth => .arr [.str "joinable_tables", .int oid.toInt, .int depth.toNat]
  | blobs database => .arr [.str "metadata.list", .int database.toInt]
  | blob oid database => .arr [.str "metadata.get", .int oid.toInt, .int database.toInt]

end Question

/-- a collaborator's state with the questions asked so far -/
structure Asked (σ : Type) where
  state : σ
  questions : List Question

/-- notes a question and passes it on -/
def recording {σ α : Type} (q : Question) (answer : Answer σ α) : Answer (Asked σ) α := fun w =>
  let (outcome, state) := answer.run w.state
  (outcome, ⟨state, w.questions ++ [q]⟩)

/-- the catalog with its questions noted -/
def Catalog.recorded {σ τ : Type} (c : Catalog σ τ) : Catalog (Asked σ) τ where
  connect database user := recording (.connect database user) (c.connect database user)
  tables s schema := recording (.tables schema) (c.tables s schema)
  table s oid := recording (.table oid) (c.table s oid)
  create s schema new := recording (.create schema new) (c.create s schema new)
  drop s oid cascade := recording (.drop oid cascade) (c.drop s oid cascade)
  alter s oid changes := recording (.alter oid changes) (c.alter s oid changes)
  importFile s schema request :=
    recording (.importFile schema request) (c.importFile s schema request)
  preview s oid columns limit :=
    recording (.preview oid columns limit) (c.preview s oid columns limit)
  joinable s oid depth := recording (.joinable oid depth) (c.joinable s oid depth)

/-- the metadata store with its questions noted -/
def MetadataStore.recorded {σ : Type} (m : MetadataStore σ) : MetadataStore (Asked σ) where
  list database := recording (.blobs database) (m.list database)
  get oid database := recording (.blob oid database) (m.get oid database)

end FaultCodes
