/-
The table methods.

A connector opens a session on a database and answers questions about its tables; a metadata store
holds a blob for some of them. Both are collaborators with a state of their own (`σ`) and may fail
at every question. A method connects, asks one question and answers; its failure leaves through the
handler, under the method's name. The two methods that add metadata ask the store only once the
catalog has answered.
-/
import FaultCodes.Boundary
import FaultCodes.Tables.Metadata

namespace FaultCodes

/-- a collaborator's answer, which may change its state -/
abbrev Answer (σ α : Type) := StateM σ (Except Failure α)

/-- opens sessions `τ` and answers questions in them -/
structure Catalog (σ τ : Type) where
  connect : (database : Int64) → (user : Text) → Answer σ τ
  tables : τ → (schema : Int64) → Answer σ (List TableInfo)
  table : τ → (oid : Int64) → Answer σ TableInfo
  create : τ → (schema : Int64) → NewTable → Answer σ AddedTable
  drop : τ → (oid : Int64) → (cascade : Bool) → Answer σ Text
  alter : τ → (oid : Int64) → TableChanges → Answer σ Text
  importFile : τ → (schema : Int64) → ImportRequest → Answer σ AddedTable
  preview : τ → (oid : Int64) → (columns : List Json) → (limit : UInt32) → Answer σ (List Json)
  joinable : τ → (oid : Int64) → (depth : UInt32) → Answer σ JoinableTables

/-- holds blobs for tables -/
structure MetadataStore (σ : Type) where
  list : (database : Int64) → Answer σ (List TableMetadata)
  get : (oid : Int64) → (database : Int64) → Answer σ (Option TableMetadata)

/-- an answer as a step of a body -/
def ask {σ α : Type} (answer : Answer σ α) : Body σ α :=
  answer

/-- an outcome that is known already, as a step of a body -/
def settled {σ α : Type} (outcome : Except Failure α) : Body σ α := fun s =>
  (outcome, s)

/-- rows in an import preview when no limit is given -/
def defaultPreviewLimit : UInt32 := 20

/-- links searched for joinable tables when no depth is given -/
def defaultJoinDepth : UInt32 := 3

namespace Tables

variable {σ τ : Type}

/-- connects and asks one question, under the handler of a method -/
def withSession {α : Type} (c : Catalog σ τ) (method : Text) (database : Int64) (user : Text)
    (question : τ → Answer σ α) : Call σ α :=
  handle method do
    let session ← ask (c.connect database user)
    ask (question session)

def list (c : Catalog σ τ) (database : Int64) (user : Text) (schema : Int64) :
    Call σ (List TableInfo) :=
  withSession c "tables.list" database user fun s => c.tables s schema

def get (c : Catalog σ τ) (database : Int64) (user : Text) (oid : Int64) : Call σ TableInfo :=
  withSession c "tables.get" database user fun s => c.table s oid

def add (c : Catalog σ τ) (database : Int64) (user : Text) (schema : Int64) (new : NewTable) :
    Call σ AddedTable :=
  withSession c "tables.add" database user fun s => c.create s schema new

/-- drops a table and answers its name -/
def delete (c : Catalog σ τ) (database : Int64) (user : Text) (oid : Int64) (cascade : Bool) :
    Call σ Text :=
  withSession c "tables.delete" database user fun s => c.drop s oid cascade

/-- changes a table and answers its name -/
def patch (c : Catalog σ τ) (database : Int64) (user : Text) (oid : Int64)
    (changes : TableChanges) : Call σ Text :=
  withSession c "tables.patch" database user fun s => c.alter s oid changes

/-- makes a table from an uploaded file -/
def importFile (c : Catalog σ τ) (database : Int64) (user : Text) (schema : Int64)
    (request : ImportRequest) : Call σ AddedTable :=
  withSession c "tables.import" database user fun s => c.importFile s schema request

/-- rows of an imported table as they would read with other column types -/
def importPreview (c : Catalog σ τ) (database : Int64) (user : Text) (oid : Int64)
    (columns : List Json) (limit : Option UInt32) : Call σ (List Json) :=
  withSession c "tables.get_import_preview" database user fun s =>
    c.preview s oid columns (limit.getD defaultPreviewLimit)

/-- tables within reach of joins -/
def listJoinable (c : Catalog σ τ) (database : Int64) (user : Text) (oid : Int64)
    (depth : Option UInt32) : Call σ JoinableTables :=
  withSession c "tables.list_joinable" database user fun s =>
    c.joinable s oid (depth.getD defaultJoinDepth)

/-- the tables of a schema, each with its blob -/
def listWithMetadata (c : Catalog σ τ) (m : MetadataStore σ) (database : Int64) (user : Text)
    (schema : Int64) : Call σ (List TableWithMetadata) := do
  let tables ← withSession c "tables.list_with_metadata" database user fun s => c.tables s schema
  let records ← handle "tables.list_with_metadata" (ask (m.list database))
  return TableWithMetadata.attach records tables

def getWithMetadata (c : Catalog σ τ) (m : MetadataStore σ) (database : Int64) (user : Text)
    (oid : Int64) : Call σ TableWithMetadata := do
  let table ← withSession c "tables.get_with_metadata" database user fun s => c.table s oid
  let stored ← handle "tables.get_with_metadata" (ask (m.get oid database))
  return ⟨table, stored.map TableMetadata.blob⟩

end Tables

end FaultCodes
