/-
The join of tables with their blobs.

The rows are handed out one after the other from the blobs still at hand. `AtHand` says which these are once some oids
have been served: none for these oids, and for every other oid what the records hold, which is the blob of the last
record for it (`Holds`). Collecting the records establishes it (`atHand_collect`) and serving one more oid keeps it
(`AtHand.remove`); `rowFor_handOut` carries it along the whole list.
- `joined_attach`: every table has its row, and the row its blob, unless a row before it had the same oid.
- `Joined.attached_once`: where no oid stands twice, a record whose oid is listed is on exactly one row.
- `listWithMetadata_exact`: what the list method answers, and that it agrees row by row with the method for one table.
-/
import Mathlib.Data.List.Induction
import Mathlib.Data.List.Nodup
import FaultCodes.Proofs.Session

namespace FaultCodes

namespace TableWithMetadata

/-! ## What the records hold -/

/-- the blob of the last record for an oid, none when no record is for it -/
def Holds (records : List TableMetadata) (oid : Int64) : Option Json → Prop
  | none => ∀ r ∈ records, r.tableOid ≠ oid
  | some blob => ∃ before after, records = before ++ ⟨oid, blob⟩ :: after ∧ ∀ r ∈ after, r.tableOid ≠ oid

/-- a record for another oid makes no difference -/
theorem Holds.snoc {records : List TableMetadata} {oid : Int64} {blob : Option Json} (h : Holds records oid blob)
    {r : TableMetadata} (hr : r.tableOid ≠ oid) : Holds (records ++ [r]) oid blob := by
  cases blob with
  | none => exact List.forall_mem_append.2 ⟨h, List.forall_mem_singleton.2 hr⟩
  | some blob =>
    obtain ⟨before, after, rfl, hafter⟩ := h
    refine ⟨before, after ++ [r], by simp, List.forall_mem_append.2 ⟨hafter, List.forall_mem_singleton.2 hr⟩⟩

theorem holds_collect (records : List TableMetadata) (oid : Int64) : Holds records oid (Blobs.collect records oid) := by
  induction records using List.reverseRecOn with
  | nil => exact fun r hr => absurd hr List.not_mem_nil
  | append_singleton records r ih =>
    have hcollect : Blobs.collect (records ++ [r]) = (Blobs.collect records).insert r := by
      rw [Blobs.collect, List.foldl_append]
      rfl
    rw [hcollect]
    by_cases hr : oid = r.tableOid
    · subst hr
      rw [Blobs.insert_self]
      exact ⟨records, [], rfl, fun q hq => absurd hq List.not_mem_nil⟩
    · rw [Blobs.insert_of_ne _ hr]
      exact ih.snoc (Ne.symm hr)

/-- the answer of a store that has these records, when it is asked for an oid: the record for it -/
def Answers (records : List TableMetadata) (oid : Int64) (stored : Option TableMetadata) : Prop :=
  ∀ r, stored = some r ↔ r ∈ records ∧ r.tableOid = oid

theorem answers_of_nodup {records : List TableMetadata} (hrecords : (records.map TableMetadata.tableOid).Nodup)
    {r : TableMetadata} (hr : r ∈ records) : Answers records r.tableOid (some r) := by
  intro q
  constructor
  · rintro ⟨⟩
    exact ⟨hr, rfl⟩
  · rintro ⟨hq, hoid⟩
    rw [List.inj_on_of_nodup_map hrecords hq hr hoid]

/-- The records hold the blob of the record that the store answers with. -/
theorem Answers.eq_of_holds {records : List TableMetadata} {oid : Int64} {stored : Option TableMetadata}
    (h : Answers records oid stored) {blob : Option Json} (hblob : Holds records oid blob) :
    blob = stored.map TableMetadata.blob := by
  cases blob with
  | none =>
    cases stored with
    | none => rfl
    | some r =>
      obtain ⟨hr, hoid⟩ := (h r).1 rfl
      exact absurd hoid (hblob r hr)
  | some blob =>
    obtain ⟨before, after, rfl, -⟩ := hblob
    rw [(h ⟨oid, blob⟩).2 ⟨List.mem_append_right _ List.mem_cons_self, rfl⟩]
    rfl

/-! ## Handing out -/

/-- the blobs left once the oids of `served` have been served -/
structure AtHand (records : List TableMetadata) (served : List Int64) (b : Blobs) : Prop where
  gone : ∀ oid ∈ served, b oid = none
  waiting : ∀ oid ∉ served, Holds records oid (b oid)

theorem atHand_collect (records : List TableMetadata) : AtHand records [] (.collect records) where
  gone := fun _ h => absurd h List.not_mem_nil
  waiting := fun oid _ => holds_collect records oid

/-- one more oid served -/
theorem AtHand.remove {records : List TableMetadata} {served : List Int64} {b : Blobs} (h : AtHand records served b)
    (oid : Int64) : AtHand records (served ++ [oid]) (b.remove oid) := by
  constructor
  · intro other hother
    by_cases ho : other = oid
    · rw [ho, Blobs.remove_self]
    · rw [Blobs.remove_of_ne b ho]
      exact h.gone other (by simpa [ho] using hother)
  · intro other hother
    rw [List.mem_append, not_or, List.mem_singleton] at hother
    rw [Blobs.remove_of_ne b hother.2]
    exact h.waiting other hother.1

/-- a row after the oids of `served`: no blob for one of these, and otherwise what the records hold -/
structure RowFor (records : List TableMetadata) (served : List Int64) (row : TableWithMetadata) : Prop where
  later : row.table.oid ∈ served → row.metadata = none
  first : row.table.oid ∉ served → Holds records row.table.oid row.metadata

def oids (rows : List TableWithMetadata) : List Int64 :=
  rows.map fun row => row.table.oid

theorem rowFor_handOut {records : List TableMetadata} {served : List Int64} {b : Blobs} (h : AtHand records served b)
    {tables : List TableInfo} {before after : List TableWithMetadata} {row : TableWithMetadata}
    (hrows : handOut b tables = before ++ row :: after) : RowFor records (served ++ oids before) row := by
  induction tables generalizing served b before with
  | nil => exact absurd hrows (by simp [handOut])
  | cons t ts ih =>
    rw [handOut] at hrows
    cases before with
    | nil =>
      obtain ⟨rfl, -⟩ := List.cons.inj hrows
      rw [oids, List.map_nil, List.append_nil]
      exact ⟨h.gone t.oid, h.waiting t.oid⟩
    | cons q before =>
      obtain ⟨rfl, hrest⟩ := List.cons.inj hrows
      have hrow := ih (h.remove t.oid) hrest
      rwa [List.append_assoc] at hrow

/-- the join of tables with the records of their blobs: a row for every table, in order, and every row after the
oids of the rows before it -/
structure Joined (records : List TableMetadata) (tables : List TableInfo) (rows : List TableWithMetadata) : Prop where
  tables : rows.map TableWithMetadata.table = tables
  rowFor : ∀ before row after, rows = before ++ row :: after → RowFor records (oids before) row

theorem map_table_handOut (b : Blobs) (tables : List TableInfo) :
    (handOut b tables).map TableWithMetadata.table = tables := by
  induction tables generalizing b with
  | nil => rfl
  | cons t ts ih => rw [handOut, List.map_cons, ih]

theorem joined_attach (records : List TableMetadata) (tables : List TableInfo) :
    Joined records tables (attach records tables) where
  tables := map_table_handOut _ tables
  rowFor := fun _ _ _ hrows => rowFor_handOut (atHand_collect records) hrows

/-! ## Where no oid stands twice -/

/-- the row is for the table of the record and has its blob -/
def Attached (r : TableMetadata) (row : TableWithMetadata) : Prop :=
  row.table.oid = r.tableOid ∧ row.metadata = some r.blob

/-- just one row has the record -/
def AttachedOnce (r : TableMetadata) (rows : List TableWithMetadata) : Prop :=
  ∃ before row after, rows = before ++ row :: after ∧ Attached r row ∧ ∀ q ∈ before ++ after, ¬ Attached r q

variable {records : List TableMetadata} {tables : List TableInfo} {rows : List TableWithMetadata}

theorem Joined.oids_eq (h : Joined records tables rows) : oids rows = tables.map TableInfo.oid := by
  rw [← h.tables, List.map_map]
  rfl

/-- with distinct tables every row holds what the records hold for its oid -/
theorem Joined.holds (h : Joined records tables rows) (htables : (tables.map TableInfo.oid).Nodup)
    {before after : List TableWithMetadata} {row : TableWithMetadata} (hrows : rows = before ++ row :: after) :
    row.table.oid ∉ oids (before ++ after) ∧ Holds records row.table.oid row.metadata := by
  have hnodup : (row.table.oid :: oids (before ++ after)).Nodup := by
    rw [← h.oids_eq, hrows, oids, List.map_append, List.map_cons, List.nodup_middle, ← List.map_append] at htables
    exact htables
  have hother := (List.nodup_cons.1 hnodup).1
  refine ⟨hother, (h.rowFor before row after hrows).first fun hbefore => hother ?_⟩
  rw [oids, List.map_append]
  exact List.mem_append_left _ hbefore

theorem Joined.attached_once (h : Joined records tables rows) (htables : (tables.map TableInfo.oid).Nodup)
    (hrecords : (records.map TableMetadata.tableOid).Nodup) {r : TableMetadata} (hr : r ∈ records)
    (hlisted : r.tableOid ∈ tables.map TableInfo.oid) : AttachedOnce r rows := by
  rw [← h.oids_eq] at hlisted
  obtain ⟨row, hrow, hoid⟩ := List.mem_map.1 hlisted
  obtain ⟨before, after, hrows⟩ := List.append_of_mem hrow
  obtain ⟨hother, hholds⟩ := h.holds htables hrows
  rw [hoid] at hother hholds
  refine ⟨before, row, after, hrows, ⟨hoid, (answers_of_nodup hrecords hr).eq_of_holds hholds⟩, ?_⟩
  rintro q hq ⟨hqoid, -⟩
  exact hother (hqoid ▸ List.mem_map_of_mem hq)

end TableWithMetadata

namespace Tables

open TableWithMetadata

variable {σ τ : Type} (c : Catalog σ τ) (m : MetadataStore σ)

/-! ## The two methods -/

/-- the catalog lists these tables and the store these records -/
def Lists (database : Int64) (user : Text) (schema : Int64) (state : σ) (tables : List TableInfo)
    (records : List TableMetadata) (state' : σ) : Prop :=
  ∃ session s₁ s₂, (c.connect database user).run state = (.ok session, s₁) ∧
    (c.tables session schema).run s₁ = (.ok tables, s₂) ∧ (m.list database).run s₂ = (.ok records, state')

/-- the catalog finds this table under the oid, and the store this record -/
def Finds (database : Int64) (user : Text) (oid : Int64) (state : σ) (table : TableInfo)
    (stored : Option TableMetadata) (state' : σ) : Prop :=
  ∃ session s₁ s₂, (c.connect database user).run state = (.ok session, s₁) ∧
    (c.table session oid).run s₁ = (.ok table, s₂) ∧ (m.get oid database).run s₂ = (.ok stored, state')

theorem outcome_handle_ok {α : Type} (method : Text) {body : Body σ α} {w : World σ} {a : α} {state : σ}
    (h : body.run.run w.backing = (.ok a, state)) :
    (handle method body).outcome w = (.ok a, ⟨state, w.events⟩) := by
  rw [Call.outcome_handle, h, settle, List.append_nil]

theorem outcome_handle_ask {α : Type} (method : Text) {answer : Answer σ α} (w : World σ) {a : α} {state : σ}
    (h : answer.run w.backing = (.ok a, state)) :
    (handle method (ask answer)).outcome w = (.ok a, ⟨state, w.events⟩) :=
  outcome_handle_ok method h

theorem outcome_withSession {α : Type} (method : Text) (database : Int64) (user : Text) (question : τ → Answer σ α)
    {w : World σ} {session : τ} {a : α} {s₁ s₂ : σ}
    (hconnect : (c.connect database user).run w.backing = (.ok session, s₁))
    (hquestion : (question session).run s₁ = (.ok a, s₂)) :
    (withSession c method database user question).outcome w = (.ok a, ⟨s₂, w.events⟩) := by
  apply outcome_handle_ok
  rw [run_askTwice, hconnect]
  exact hquestion

theorem outcome_listWithMetadata {database : Int64} {user : Text} {schema : Int64} {w : World σ}
    {tables : List TableInfo} {records : List TableMetadata} {state : σ}
    (h : Lists c m database user schema w.backing tables records state) :
    (listWithMetadata c m database user schema).outcome w = (.ok (attach records tables), ⟨state, w.events⟩) := by
  obtain ⟨session, s₁, s₂, hconnect, htables, hrecords⟩ := h
  rw [listWithMetadata, Call.outcome_bind, outcome_withSession c _ database user _ hconnect htables]
  change (handle _ (ask (m.list database)) >>= _).outcome ⟨s₂, w.events⟩ = _
  rw [Call.outcome_bind, outcome_handle_ask _ _ hrecords]
  rfl

theorem outcome_getWithMetadata {database : Int64} {user : Text} {oid : Int64} {w : World σ} {table : TableInfo}
    {stored : Option TableMetadata} {state : σ} (h : Finds c m database user oid w.backing table stored state) :
    (getWithMetadata c m database user oid).outcome w =
      (.ok ⟨table, stored.map TableMetadata.blob⟩, ⟨state, w.events⟩) := by
  obtain ⟨session, s₁, s₂, hconnect, htable, hstored⟩ := h
  rw [getWithMetadata, Call.outcome_bind, outcome_withSession c _ database user _ hconnect htable]
  change (handle _ (ask (m.get oid database)) >>= _).outcome ⟨s₂, w.events⟩ = _
  rw [Call.outcome_bind, outcome_handle_ask _ _ hstored]
  rfl

/-- **The join is exact.** Whatever tables the catalog lists and whatever records the store has, the list method
answers a row for every table, in the order of the catalog and with the table as it is. The first row with an oid has
the blob of the last record for it, or none when no record is for it, and every later row with that oid has none. Where
no oid stands twice, neither among the tables nor among the records, every record whose oid is listed is on just one
row, and every row is what the method for one table answers when the catalog finds that table under its oid and the
store answers with the record for it. -/
theorem listWithMetadata_exact {database : Int64} {user : Text} {schema : Int64} {w : World σ}
    {tables : List TableInfo} {records : List TableMetadata} {state : σ}
    (h : Lists c m database user schema w.backing tables records state) :
    ∃ rows, (listWithMetadata c m database user schema).outcome w = (.ok rows, ⟨state, w.events⟩) ∧
      Joined records tables rows ∧
      ((tables.map TableInfo.oid).Nodup → (records.map TableMetadata.tableOid).Nodup →
        (∀ r ∈ records, r.tableOid ∈ tables.map TableInfo.oid → AttachedOnce r rows) ∧
        ∀ row ∈ rows, ∀ (w' : World σ) (stored : Option TableMetadata) (state' : σ),
          Finds c m database user row.table.oid w'.backing row.table stored state' →
          Answers records row.table.oid stored →
          (getWithMetadata c m database user row.table.oid).outcome w' = (.ok row, ⟨state', w'.events⟩)) := by
  have hjoined := joined_attach records tables
  refine ⟨_, outcome_listWithMetadata c m h, hjoined, fun htables hrecords => ⟨fun r hr hlisted => ?_, ?_⟩⟩
  · exact hjoined.attached_once htables hrecords hr hlisted
  · intro row hrow w' stored state' hfinds hanswers
    obtain ⟨before, after, hrows⟩ := List.append_of_mem hrow
    have hmetadata := hanswers.eq_of_holds (hjoined.holds htables hrows).2
    rw [outcome_getWithMetadata c m hfinds, ← hmetadata]

/-- a catalog that has these tables in every schema and answers no other question -/
def shelf (tables : List TableInfo) : Catalog Unit Unit :=
  let refused : Failure := .badValue "not on this shelf"
  { connect := fun _ _ => settled (.ok ())
    tables := fun _ _ => settled (.ok tables)
    table := fun _ oid => settled (((tables.find? (·.oid = oid)).map .ok).getD (.error refused))
    create := fun _ _ _ => settled (.error refused)
    drop := fun _ _ _ => settled (.error refused)
    alter := fun _ _ _ => settled (.error refused)
    importFile := fun _ _ _ => settled (.error refused)
    preview := fun _ _ _ _ => settled (.error refused)
    joinable := fun _ _ _ => settled (.error refused) }

/-- a store with these records in every database -/
def drawer (records : List TableMetadata) : MetadataStore Unit where
  list _ := settled (.ok records)
  get oid _ := settled (.ok (records.find? (·.tableOid = oid)))

/-- two tables, a record for the second of them and one for a table that is not listed -/
theorem listWithMetadata_exact_two_tables :
    let authors : TableInfo := ⟨1, "authors", 9, none, 10, [.select], true⟩
    let books : TableInfo := ⟨2, "books", 9, none, 10, [], false⟩
    let verified : TableMetadata := ⟨2, .bool true⟩
    let catalog := shelf [authors, books]
    let store := drawer [verified, ⟨3, .null⟩]
    Lists catalog store 7 "ada" 9 () [authors, books] [verified, ⟨3, .null⟩] () ∧
      ∃ rows, (listWithMetadata catalog store 7 "ada" 9).outcome ⟨(), []⟩ = (.ok rows, ⟨(), []⟩) ∧
        Joined [verified, ⟨3, .null⟩] [authors, books] rows ∧ AttachedOnce verified rows ∧
        ∀ row ∈ rows, row.table = books →
          (getWithMetadata catalog store 7 "ada" 2).outcome ⟨(), []⟩ = (.ok row, ⟨(), []⟩) := by
  intro authors books verified catalog store
  have hlists : Lists catalog store 7 "ada" 9 () [authors, books] [verified, ⟨3, .null⟩] () :=
    ⟨(), (), (), rfl, rfl, rfl⟩
  have hrecords : ([verified, ⟨3, .null⟩].map TableMetadata.tableOid).Nodup := by decide
  obtain ⟨rows, houtcome, hjoined, hdistinct⟩ := listWithMetadata_exact catalog store (w := ⟨(), []⟩) hlists
  obtain ⟨honce, hget⟩ := hdistinct (by decide) hrecords
  refine ⟨hlists, rows, houtcome, hjoined, honce verified List.mem_cons_self (by decide), fun row hrow hbooks => ?_⟩
  have hfinds : Finds catalog store 7 "ada" row.table.oid () row.table (some verified) () := by
    rw [hbooks]
    exact ⟨(), (), (), rfl, rfl, rfl⟩
  have hanswers : Answers [verified, ⟨3, .null⟩] row.table.oid (some verified) := by
    rw [hbooks]
    exact answers_of_nodup hrecords List.mem_cons_self
  have hrow' := hget row hrow ⟨(), []⟩ (some verified) () hfinds hanswers
  rwa [hbooks] at hrow'

end Tables

end FaultCodes
