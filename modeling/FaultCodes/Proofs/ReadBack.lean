/-
Records read back from their JSON form.

What is written for a record is an object, with the members that its fields ask for (`Layout.Gives`, field by field in
the order of the layout); what is written for the value of a field is read as that value. The two sides are declared
apart, so each field is held against its member.
- `ColumnSettings.readsBack`: column settings are read back when their bounds were accepted once.
- `TableWithMetadata.readsBack`: a table with its blob is read back, but for the blob null, which is read as no blob.
- `every_record_reads_back`: these two together with every other record, which is read back as it is.
-/
import FaultCodes.Columns.Settings
import FaultCodes.Tables.Metadata
import FaultCodes.Proofs.Columns

namespace FaultCodes

namespace Record

open FaultCodes.Json

/-! ## Values of fields -/

namespace Codec

theorem int64_read_int (n : Int) : int64.read (.int n) =
    if -0x8000000000000000 ≤ n ∧ n < 0x8000000000000000 then .ok (.ofInt n) else .error (.outOfRange n "i64") := rfl

theorem uint32_read_int (n : Int) : uint32.read (.int n) =
    if 0 ≤ n ∧ n < 0x100000000 then .ok (.ofNat n.toNat) else .error (.outOfRange n "u32") := rfl

theorem read_int64 (n : Int64) : int64.read (int64.write n) = .ok n := by
  have hlow := n.le_toInt
  have hhigh := n.toInt_lt
  have hwrite : int64.write n = .int n.toInt := rfl
  rw [hwrite, int64_read_int, if_pos (by omega), Int64.ofInt_toInt]

theorem read_uint32 (n : UInt32) : uint32.read (uint32.write n) = .ok n := by
  have hhigh := n.toNat_lt
  have hwrite : uint32.write n = .int n.toNat := rfl
  rw [hwrite, uint32_read_int, if_pos (by omega), Int.toNat_natCast, UInt32.ofNat_toNat]

theorem read_text (t : Text) : text.read (.str t) = .ok t := rfl

theorem read_bool (b : Bool) : bool.read (.bool b) = .ok b := rfl

theorem read_any (j : Json) : any.read j = .ok j := rfl

theorem nullable_read {α : Type} (c : Codec α) {j : Json} (hj : j ≠ .null) :
    (nullable c).read j = (c.read j).map some := by
  cases j with
  | null => exact absurd rfl hj
  | _ => rfl

theorem read_nullable {α : Type} {c : Codec α} (hread : ∀ a, c.read (c.write a) = .ok a)
    (hnull : ∀ a, c.write a ≠ .null) (o : Option α) : (nullable c).read ((nullable c).write o) = .ok o := by
  cases o with
  | none => rfl
  | some a =>
    have hwrite : (nullable c).write (some a) = c.write a := rfl
    rw [hwrite, nullable_read c (hnull a), hread]
    rfl

theorem read_uint32? (n : Option UInt32) : (nullable uint32).read ((nullable uint32).write n) = .ok n :=
  read_nullable read_uint32 (fun _ => Json.noConfusion) n

theorem read_text? (t : Option Text) : (nullable text).read (.ofText? t) = .ok t := by
  cases t <;> rfl

/-- a blob that is null is not told from no blob -/
theorem read_any? (j : Option Json) : (nullable any).read (j.getD .null) = .ok (if j = some .null then none else j) := by
  cases j with
  | none => rfl
  | some j => cases j <;> rfl

theorem read_list {α : Type} {c : Codec α} {as : List α} (h : ∀ a ∈ as, c.read (c.write a) = .ok a) :
    (list c).read ((list c).write as) = .ok as := by
  change readItems c.read (as.map c.write) = .ok as
  rw [readItems_eq_ok_iff, List.forall₂_map_left_iff, List.forall₂_same]
  exact h

theorem read_anys (js : List Json) : (list any).read (.arr js) = .ok js := by
  have hwrite : (list any).write js = .arr js := by simp [list, any]
  have hread : (list any).read ((list any).write js) = .ok js := read_list fun j _ => read_any j
  rwa [hwrite] at hread

end Codec

/-! ## Fields and their members -/

/-- the fields of the layout take the record from the members -/
def Layout.Gives {α : Type} (l : Layout α) (ms : Members) (a : α) : Prop :=
  l.build ms = .ok a

theorem Layout.gives_pure {α : Type} (a : α) (ms : Members) : (Layout.pure a).Gives ms a := rfl

theorem Layout.Gives.field {α β : Type} {rest : Layout (α → β)} {ms : Members} {g : α → β} (h : rest.Gives ms g)
    {f : Field α} {a : α} (hf : f.Takes ms a) : (Layout.field rest f).Gives ms (g a) :=
  Layout.build_field_eq_ok_iff.2 ⟨g, a, h, hf, rfl⟩

section Member

variable {α : Type} {c : Codec α} {name : Text} {ms : Members} {value : Json} (hms : Distinct ms) (i : Nat)
  (hi : ms[i]? = some (name, value))
include hms hi

theorem Field.takes_required {a : α} (hread : c.read value = .ok a) : (Field.required name c).Takes ms a :=
  takes_of_mem hms (List.mem_of_getElem? hi) hread

theorem Field.takes_optional {a : Option α} (hread : c.nullable.read value = .ok a) :
    (Field.optional name c).Takes ms a :=
  takes_of_mem hms (List.mem_of_getElem? hi) hread

theorem Field.takes_defaulted {a default : α} (hread : c.read value = .ok a) :
    (Field.defaulted name c default).Takes ms a :=
  takes_of_mem hms (List.mem_of_getElem? hi) hread

end Member

/-- a record whose members are those of its fields, one for each and in their order -/
theorem Shape.readsBack_of_names {α : Type} {s : Shape α} (hnames : s.layout.names.Nodup) {a b : α} {ms : Members}
    (hwrite : s.write a = .obj ms) (hkeys : ms.map Prod.fst = s.layout.names)
    (hgives : Distinct ms → s.layout.Gives ms b) : s.codec.ReadsBack a b := by
  have hms : Distinct ms := by
    rw [Distinct, hkeys]
    exact hnames
  exact Shape.readsBack hwrite hms (hgives hms)

end Record

open Record

/-- No record has two fields of one name. Those that share an object are put together, and column settings are read off
one of their objects, since all have the same keys. -/
theorem nodup_names : ∀ names ∈
    [TableInfo.shape.layout.names, (TableInfo.layout true).names ++ TableWithMetadata.shape.own.names,
     AddedTable.shape.layout.names, TableChanges.shape.layout.names, JoinPath.shape.layout.names,
     JoinableTables.shape.layout.names, TableMetadata.shape.layout.names, NewTable.shape.layout.names,
     ImportRequest.shape.layout.names, (ColumnSettings.new 0 0).members.map Prod.fst], names.Nodup := by
  decide +kernel

/-! ## Tables -/

theorem Privilege.read_names (loose : Bool) (ps : List Privilege) :
    (Codec.list (codec loose)).read (.ofTexts (ps.map name)) = .ok ps := by
  have hname : ∀ p, (codec loose).read (.str p.name) = .ok p := by
    intro p
    cases p <;> rfl
  have hwrite : (Codec.list (codec loose)).write ps = .ofTexts (ps.map name) := by
    simp [Codec.list, Privilege.codec, Variants.codec, Json.ofTexts]
  have hread : (Codec.list (codec loose)).read ((Codec.list (codec loose)).write ps) = .ok ps :=
    Codec.read_list fun p _ => hname p
  rwa [hwrite] at hread

theorem TableInfo.gives (loose : Bool) (t : TableInfo) {others : Json.Members} (h : Distinct (t.members ++ others)) :
    (layout loose).Gives (t.members ++ others) t :=
  Layout.gives_pure TableInfo.mk _
    |>.field (Field.takes_required h 0 rfl (Codec.read_int64 t.oid))
    |>.field (Field.takes_required h 1 rfl (Codec.read_text t.name))
    |>.field (Field.takes_required h 2 rfl (Codec.read_int64 t.schema))
    |>.field (Field.takes_optional h 3 rfl (Codec.read_text? t.description))
    |>.field (Field.takes_required h 4 rfl (Codec.read_int64 t.ownerOid))
    |>.field (Field.takes_required h 5 rfl (Privilege.read_names loose t.privileges))
    |>.field (Field.takes_required h 6 rfl (Codec.read_bool t.owned))

theorem TableInfo.readsBack (t : TableInfo) : shape.codec.ReadsBack t t := by
  refine Shape.readsBack_of_names (nodup_names _ (by simp)) rfl rfl ?_
  intro h
  have hgives : (layout false).Gives (t.members ++ []) t := gives false t (by rwa [List.append_nil])
  rwa [List.append_nil] at hgives

theorem AddedTable.readsBack (t : AddedTable) : shape.codec.ReadsBack t t := by
  refine Shape.readsBack_of_names (nodup_names _ (by simp)) rfl rfl ?_
  intro h
  exact Layout.gives_pure AddedTable.mk _
    |>.field (Field.takes_required h 0 rfl (Codec.read_int64 t.oid))
    |>.field (Field.takes_required h 1 rfl (Codec.read_text t.name))

theorem JoinPath.readsBack (p : JoinPath) : shape.codec.ReadsBack p p := by
  refine Shape.readsBack_of_names (nodup_names _ (by simp)) rfl rfl ?_
  intro h
  exact Layout.gives_pure JoinPath.mk _
    |>.field (Field.takes_required h 0 rfl (Codec.read_int64 p.base))
    |>.field (Field.takes_required h 1 rfl (Codec.read_int64 p.target))
    |>.field (Field.takes_required h 2 rfl (Codec.read_anys p.columns))
    |>.field (Field.takes_required h 3 rfl (Codec.read_anys p.foreignKeys))
    |>.field (Field.takes_required h 4 rfl (Codec.read_uint32 p.depth))
    |>.field (Field.takes_required h 5 rfl (Codec.read_bool p.multipleResults))

theorem JoinableTables.readsBack (t : JoinableTables) : shape.codec.ReadsBack t t := by
  have hpaths : (Codec.list JoinPath.shape.codec).read ((Codec.list JoinPath.shape.codec).write t.paths) = .ok t.paths :=
    Codec.read_list fun p _ => p.readsBack.read_write
  refine Shape.readsBack_of_names (nodup_names _ (by simp)) rfl rfl ?_
  intro h
  exact Layout.gives_pure JoinableTables.mk _
    |>.field (Field.takes_required h 0 rfl hpaths)
    |>.field (Field.takes_required h 1 rfl (Codec.read_any t.targets))

theorem TableMetadata.readsBack (m : TableMetadata) : shape.codec.ReadsBack m m := by
  refine Shape.readsBack_of_names (nodup_names _ (by simp)) rfl rfl ?_
  intro h
  exact Layout.gives_pure TableMetadata.mk _
    |>.field (Field.takes_required h 0 rfl (Codec.read_int64 m.tableOid))
    |>.field (Field.takes_required h 1 rfl (Codec.read_any m.blob))

/-! ## Requests -/

theorem NewTable.readsBack (t : NewTable) : shape.codec.ReadsBack t t := by
  refine Shape.readsBack_of_names (nodup_names _ (by simp)) rfl rfl ?_
  intro h
  exact Layout.gives_pure NewTable.mk _
    |>.field (Field.takes_defaulted h 0 rfl (Codec.read_text? t.name))
    |>.field (Field.takes_defaulted h 1 rfl (Codec.read_anys t.columns))
    |>.field (Field.takes_defaulted h 2 rfl (Codec.read_anys t.constraints))
    |>.field (Field.takes_defaulted h 3 rfl (Codec.read_text? t.comment))

theorem ImportRequest.readsBack (r : ImportRequest) : shape.codec.ReadsBack r r := by
  refine Shape.readsBack_of_names (nodup_names _ (by simp)) rfl rfl ?_
  intro h
  exact Layout.gives_pure ImportRequest.mk _
    |>.field (Field.takes_required h 0 rfl (Codec.read_int64 r.dataFileId))
    |>.field (Field.takes_defaulted h 1 rfl (Codec.read_text? r.name))
    |>.field (Field.takes_defaulted h 2 rfl (Codec.read_text? r.comment))

namespace TableChanges

theorem lookup_member? {α : Type} (key name : Text) (write : α → Json) (o : Option α) :
    (member? name write o).lookup key = if key = name then o.map write else none := by
  cases o with
  | none => simp [member?]
  | some a =>
    by_cases hkey : key = name
    · simp [member?, hkey]
    · have hne : (key == name) = false := by simpa using hkey
      simp [member?, List.lookup_cons, hne, hkey]

theorem keys_member? {α : Type} (name : Text) (write : α → Json) (o : Option α) :
    List.Sublist ((member? name write o).map Prod.fst) [name] := by
  cases o with
  | none => exact List.nil_sublist _
  | some a => exact List.Sublist.refl _

theorem distinct_members (c : TableChanges) : Distinct c.members := by
  have hnames : shape.layout.names.Nodup := nodup_names _ (by simp)
  have hkeys : List.Sublist (c.members.map Prod.fst) shape.layout.names := by
    change List.Sublist (List.map Prod.fst (member? "name" Json.str c.name ++
      member? "description" Json.ofText? c.description ++ member? "columns" Json.arr c.columns)) _
    rw [List.map_append, List.map_append]
    exact ((keys_member? _ _ _).append (keys_member? _ _ _)).append (keys_member? _ _ _)
  exact hnames.sublist hkeys

/-- a field takes what its member says, and counts as left out when it has none -/
theorem takes_member? {α : Type} {c : Codec (Option α)} {write : α → Json}
    (hread : ∀ a, c.read (write a) = .ok (some a)) {name : Text} {ms : Json.Members} {o : Option α}
    (h : ms.lookup name = o.map write) : (Field.defaulted name c none).Takes ms o := by
  cases o with
  | none => exact Field.takes_of_absent h rfl
  | some a => exact Field.takes_of_lookup h (hread a)

theorem lookup_members (c : TableChanges) (key : Text) : c.members.lookup key =
    ((if key = "name" then c.name.map Json.str else none).or
      (if key = "description" then c.description.map Json.ofText? else none)).or
      (if key = "columns" then c.columns.map Json.arr else none) := by
  change List.lookup key (member? "name" Json.str c.name ++ member? "description" Json.ofText? c.description ++
    member? "columns" Json.arr c.columns) = _
  rw [List.lookup_append, List.lookup_append, lookup_member?, lookup_member?, lookup_member?]

theorem lookup_description (c : TableChanges) :
    c.members.lookup ("description" : Text) = c.description.map Json.ofText? := by
  rw [lookup_members, if_neg (by decide +kernel), if_pos rfl, if_neg (by decide +kernel), Option.none_or, Option.or_none]

theorem readsBack (c : TableChanges) : shape.codec.ReadsBack c c := by
  have hname : c.members.lookup ("name" : Text) = c.name.map Json.str := by
    rw [lookup_members, if_pos rfl, if_neg (by decide +kernel), if_neg (by decide +kernel), Option.or_none, Option.or_none]
  have hcolumns : c.members.lookup ("columns" : Text) = c.columns.map Json.arr := by
    rw [lookup_members, if_neg (by decide +kernel), if_neg (by decide +kernel), if_pos rfl, Option.none_or, Option.none_or]
  refine Shape.readsBack rfl c.distinct_members ?_
  exact Layout.gives_pure TableChanges.mk _
    |>.field (takes_member? (fun _ => rfl) hname)
    |>.field (takes_member? (fun d => congrArg (Except.map some) (Codec.read_text? d)) c.lookup_description)
    |>.field (takes_member? (fun js => congrArg (Except.map some) (Codec.read_anys js)) hcolumns)

end TableChanges

/-! ## Records that share their object -/

/-- null as a blob is not told from no blob -/
def TableWithMetadata.settled (t : TableWithMetadata) : TableWithMetadata :=
  { t with metadata := if t.metadata = some .null then none else t.metadata }

theorem TableWithMetadata.readsBack (t : TableWithMetadata) : shape.codec.ReadsBack t t.settled := by
  have hnames : ((TableInfo.layout true).names ++ shape.own.names).Nodup := nodup_names _ (by simp)
  have hms : Distinct (t.table.members ++ t.ownMembers) := hnames
  have hown : shape.own.Gives (t.table.members ++ t.ownMembers) (fun table => ⟨table, t.settled.metadata⟩) :=
    Layout.gives_pure (fun metadata table => TableWithMetadata.mk table metadata) _
      |>.field (Field.takes_optional hms 7 rfl (Codec.read_any? t.metadata))
  have hinner : (TableInfo.layout true).Gives (t.table.members ++ t.ownMembers) t.table := TableInfo.gives true t.table hms
  exact Flattened.readsBack rfl hms hown fun ms' h => Layout.readMembers_perm hms h hinner

theorem BoolInput.read_name? (b : Option BoolInput) : (Codec.nullable codec).read (.ofText? (b.map name)) = .ok b := by
  cases b with
  | none => rfl
  | some b => cases b <;> rfl

theorem CurrencyLocation.read_name (l : CurrencyLocation) : codec.read (.str l.name) = .ok l := by
  cases l <;> rfl

namespace ColumnSettings

theorem distinct_members (s : ColumnSettings) : Distinct s.members := by
  have hnew : ((new 0 0).members.map Prod.fst).Nodup := nodup_names _ (by simp)
  have hkeys : s.members.map Prod.fst = (new 0 0).members.map Prod.fst := rfl
  rw [Distinct, hkeys]
  exact hnew

theorem gives_own (s : ColumnSettings) :
    own.Gives s.members (fun fracDigits => { s with fracDigits := fracDigits }) :=
  have h := s.distinct_members
  Layout.gives_pure ofFields _
    |>.field (Field.takes_required h 0 rfl (Codec.read_int64 s.tableOid))
    |>.field (Field.takes_required h 1 rfl (Codec.read_int64 s.attnum))
    |>.field (Field.takes_defaulted h 2 rfl (BoolInput.read_name? s.boolInput))
    |>.field (Field.takes_defaulted h 3 rfl (Codec.read_text s.boolTrue))
    |>.field (Field.takes_defaulted h 4 rfl (Codec.read_text s.boolFalse))
    |>.field (Field.takes_defaulted h 7 rfl (Codec.read_bool s.showAsPercentage))
    |>.field (Field.takes_defaulted h 8 rfl (Codec.read_text s.currencySymbol))
    |>.field (Field.takes_defaulted h 9 rfl (CurrencyLocation.read_name s.currencyLocation))
    |>.field (Field.takes_defaulted h 10 rfl (Codec.read_text? s.timeFormat))
    |>.field (Field.takes_defaulted h 11 rfl (Codec.read_text? s.dateFormat))
    |>.field (Field.takes_defaulted h 12 rfl (Codec.read_text? s.durationMin))
    |>.field (Field.takes_defaulted h 13 rfl (Codec.read_text? s.durationMax))
    |>.field (Field.takes_defaulted h 14 rfl (Codec.read_bool s.durationShowUnits))

theorem gives_bounds (s : ColumnSettings) :
    FracDigits.fields.layout.Gives s.members (s.fracDigits.min, s.fracDigits.max) :=
  Layout.gives_pure Prod.mk _
    |>.field (Field.takes_defaulted s.distinct_members 5 rfl (Codec.read_uint32? s.fracDigits.min))
    |>.field (Field.takes_defaulted s.distinct_members 6 rfl (Codec.read_uint32? s.fracDigits.max))

/-- settings are read back when their bounds are sound -/
theorem readsBack (s : ColumnSettings) (hsound : s.fracDigits.Sound) : shape.codec.ReadsBack s s := by
  have hnew : FracDigits.new s.fracDigits.min s.fracDigits.max = .ok s.fracDigits :=
    FracDigits.new_eq_ok_iff.2 ⟨rfl, hsound⟩
  have hbounds : ∀ ms' : Json.Members, ms'.Perm s.members → FracDigits.readMembers ms' = .ok s.fracDigits := by
    intro ms' h
    apply except_bind_eq_ok_iff.2
    refine ⟨_, Layout.readMembers_perm s.distinct_members h s.gives_bounds, ?_⟩
    rw [FracDigits.ofBounds, hnew]
    rfl
  have hown : shape.own.Gives s.members (fun fracDigits => { s with fracDigits := fracDigits }) := s.gives_own
  exact @Flattened.readsBack _ _ shape s _ s.fracDigits s.members rfl s.distinct_members hown hbounds

end ColumnSettings

/-- **Every record is read back from its JSON form.** What is written for a record is an object, and in whatever order
its members stand it is read as that record: for tables, paths of joins, blobs, requests, and column settings whose
bounds were accepted. A table with its blob is read back too, but for the blob null, which is read as no blob. -/
theorem every_record_reads_back :
    (∀ t, TableInfo.shape.codec.ReadsBack t t) ∧
    (∀ t, AddedTable.shape.codec.ReadsBack t t) ∧
    (∀ c, TableChanges.shape.codec.ReadsBack c c) ∧
    (∀ p, JoinPath.shape.codec.ReadsBack p p) ∧
    (∀ t, JoinableTables.shape.codec.ReadsBack t t) ∧
    (∀ m, TableMetadata.shape.codec.ReadsBack m m) ∧
    (∀ t, NewTable.shape.codec.ReadsBack t t) ∧
    (∀ r, ImportRequest.shape.codec.ReadsBack r r) ∧
    (∀ (s : ColumnSettings) (min max : Option UInt32), FracDigits.new min max = .ok s.fracDigits →
      ColumnSettings.shape.codec.ReadsBack s s) ∧
    (∀ t : TableWithMetadata, TableWithMetadata.shape.codec.ReadsBack t
      { t with metadata := if t.metadata = some .null then none else t.metadata }) := by
  refine ⟨TableInfo.readsBack, AddedTable.readsBack, TableChanges.readsBack, JoinPath.readsBack,
    JoinableTables.readsBack, TableMetadata.readsBack, NewTable.readsBack, ImportRequest.readsBack, ?_,
    TableWithMetadata.readsBack⟩
  intro s min max hnew
  exact s.readsBack (FracDigits.new_eq_ok_iff.1 hnew).2

/-- settings with two to twenty digits after the point -/
theorem every_record_reads_back_two_to_twenty :
    FracDigits.new (some 2) (some 20) = .ok ⟨some 2, some 20⟩ ∧
    ColumnSettings.shape.codec.ReadsBack { ColumnSettings.new 16400 2 with fracDigits := ⟨some 2, some 20⟩ }
      { ColumnSettings.new 16400 2 with fracDigits := ⟨some 2, some 20⟩ } := by
  obtain ⟨-, -, -, -, -, -, -, -, hsettings, -⟩ := every_record_reads_back
  exact ⟨rfl, hsettings _ (some 2) (some 20) rfl⟩

end FaultCodes
