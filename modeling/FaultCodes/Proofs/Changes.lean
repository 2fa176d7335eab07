/-
Change requests written back.

A field of a change request has a codec that reads only what it writes (`Codec.Exact`), so what the field takes from an
object settles what the object says under its name. The three fields skip what is not there in the same way, but null is
read as nothing for the name and the columns, and as a value of its own for the description
(`Field.takes_nullable_iff`, `Field.takes_present_iff`).
- `TableChanges.read_obj_eq_ok_iff`: which objects are read, and as which changes.
- `TableChanges.change_request_written_back`: what is written for the changes read from an object are the members of the
  object but for unknown keys and for a name or columns that are null.
-/
import FaultCodes.Proofs.Members
import FaultCodes.Proofs.ReadBack

namespace FaultCodes

namespace Record

open FaultCodes.Json

/-! ## Codecs that read only what they write -/

namespace Codec

variable {α : Type} {c : Codec α}

/-- what is read from a text is what is read from its value -/
theorem read_of_ofText {t : Text} {a : α} (h : ofText c t = .ok a) : c.read (Document.ofText t).1.json = .ok a := by
  unfold ofText at h
  generalize Document.ofText t = scanned at h ⊢
  obtain ⟨_, -, h⟩ := except_bind_eq_ok_iff.1 h
  cases hread : c.read scanned.1.json with
  | error problem =>
    rw [hread] at h
    cases h
  | ok b =>
    rw [hread] at h
    obtain ⟨_, -, h⟩ := except_bind_eq_ok_iff.1 h
    cases h
    rfl

/-- a value is read from what is written for it, and from nothing else -/
def Exact (c : Codec α) : Prop :=
  ∀ (j : Json) (a : α), c.read j = .ok a ↔ j = c.write a

theorem exact_text : Exact text := by
  intro j t
  constructor
  · intro h
    cases j with
    | str s =>
      cases h
      rfl
    | _ => cases h
  · rintro rfl
    exact read_text t

theorem exact_any : Exact any := by
  intro j a
  constructor
  · intro h
    exact Except.ok.inj h
  · rintro rfl
    exact read_any _

theorem Exact.list (h : Exact c) : Exact (list c) := by
  intro j as
  constructor
  · intro hread
    cases j with
    | arr items =>
      have hitems : List.Forall₂ (fun item a => item = c.write a) items as :=
        ((readItems_eq_ok_iff c.read items as).1 hread).imp fun item a => (h item a).1
      have heq : items = as.map c.write := by
        rw [← List.forall₂_eq_eq_eq, List.forall₂_map_right_iff]
        exact hitems
      exact congrArg Json.arr heq
    | _ => cases hread
  · rintro rfl
    exact read_list fun a _ => (h _ a).2 rfl

theorem Exact.nullable (h : Exact c) (hnull : ∀ a, c.write a ≠ .null) : Exact (nullable c) := by
  intro j o
  constructor
  · intro hread
    by_cases hj : j = .null
    · subst hj
      cases hread
      rfl
    · rw [nullable_read c hj, except_map_eq_ok_iff] at hread
      obtain ⟨a, ha, rfl⟩ := hread
      exact (h j a).1 ha
  · rintro rfl
    exact read_nullable (fun a => (h _ a).2 rfl) hnull o

end Codec

/-! ## Fields that may be left out -/

/-- what an object says under a name, null counted as nothing -/
def said (ms : Members) (name : Text) : Option Json :=
  (ms.lookup name).filter (· ≠ .null)

theorem said_eq_some_iff {ms : Members} {name : Text} {value : Json} :
    said ms name = some value ↔ ms.lookup name = some value ∧ value ≠ .null := by
  rw [said, Option.filter_eq_some_iff, decide_eq_true_eq]

namespace Field

variable {α : Type} {c : Codec α} {name : Text} {ms : Members} {o : Option α}

theorem read_map_some_iff (h : c.Exact) {value : Json} :
    (c.read value).map some = .ok o ↔ some value = o.map c.write := by
  rw [except_map_eq_ok_iff]
  constructor
  · rintro ⟨a, ha, rfl⟩
    exact congrArg some ((h value a).1 ha)
  · intro hvalue
    obtain ⟨a, rfl, ha⟩ := Option.map_eq_some_iff.1 hvalue.symm
    exact ⟨a, (h value a).2 ha.symm, rfl⟩

theorem takes_absent_iff {codec : Codec (Option α)} (habsent : ms.lookup name = none) :
    (defaulted name codec none).Takes ms o ↔ none = o.map c.write := by
  rw [takes_iff_of_absent habsent]
  cases o <;> simp [defaulted]

/-- null counts as left out -/
theorem takes_nullable_iff (h : c.Exact) :
    (defaulted name c.nullable none).Takes ms o ↔ said ms name = o.map c.write := by
  unfold said
  cases hlookup : ms.lookup name with
  | none => exact takes_absent_iff hlookup
  | some value =>
    rw [takes_iff_of_lookup hlookup, Option.filter_some]
    by_cases hnull : value = .null
    · subst hnull
      change Except.ok none = .ok o ↔ none = o.map c.write
      cases o <;> simp
    · have hread : (defaulted name c.nullable none).codec.read value = (c.read value).map some :=
        Codec.nullable_read c hnull
      rw [hread, if_pos (decide_eq_true hnull)]
      exact read_map_some_iff h

/-- null is a value like others -/
theorem takes_present_iff (h : c.Exact) :
    (defaulted name c.present none).Takes ms o ↔ ms.lookup name = o.map c.write := by
  cases hlookup : ms.lookup name with
  | none => exact takes_absent_iff hlookup
  | some value => exact (takes_iff_of_lookup hlookup).trans (read_map_some_iff h)

end Field

end Record

open Record

namespace TableChanges

/-! ## What is read -/

variable {ms : Json.Members} {c : TableChanges}

/-- what an object has to say to be read as these changes -/
structure Asks (ms : Json.Members) (c : TableChanges) : Prop where
  name : said ms "name" = c.name.map Json.str
  description : ms.lookup ("description" : Text) = c.description.map Json.ofText?
  columns : said ms "columns" = c.columns.map Json.arr

theorem write_text? : (Codec.nullable .text).write = Json.ofText? := by
  funext t
  cases t <;> rfl

theorem write_anys : (Codec.list .any).write = Json.arr := by
  funext js
  exact congrArg Json.arr (List.map_id js)

theorem read_obj_eq_ok_iff (hms : Distinct ms) : shape.codec.read (.obj ms) = .ok c ↔ Asks ms c := by
  have hname {o : Option Text} : (Field.defaulted "name" (.nullable .text) none).Takes ms o ↔
      said ms "name" = o.map Json.str := Field.takes_nullable_iff Codec.exact_text
  have hdescription {o : Option (Option Text)} :
      (Field.defaulted "description" (.present (.nullable .text)) none).Takes ms o ↔
        ms.lookup ("description" : Text) = o.map Json.ofText? := by
    rw [← write_text?]
    exact Field.takes_present_iff (Codec.exact_text.nullable fun _ => Json.noConfusion)
  have hcolumns {o : Option (List Json)} : (Field.defaulted "columns" (.nullable (.list .any)) none).Takes ms o ↔
      said ms "columns" = o.map Json.arr := by
    rw [← write_anys]
    exact Field.takes_nullable_iff Codec.exact_any.list
  change shape.layout.readMembers ms = .ok c ↔ _
  rw [Layout.readMembers_eq_ok_iff hms, Layout.build_eq_ok_iff_collects]
  -- the fields from the last to the first, as the layout has them
  constructor
  · rintro ⟨_, _, ⟨_, _, ⟨_, _, h, hn, rfl⟩, hd, rfl⟩, hc, rfl⟩
    cases h
    exact ⟨hname.1 hn, hdescription.1 hd, hcolumns.1 hc⟩
  · rintro ⟨hn, hd, hc⟩
    exact ⟨_, _, ⟨_, _, ⟨_, _, rfl, hname.2 hn, rfl⟩, hdescription.2 hd, rfl⟩, hcolumns.2 hc, rfl⟩

/-! ## What is written -/

/-- the members of an object without those that have unknown keys, and without a name or columns that are null -/
def kept (ms : Json.Members) : Json.Members :=
  ms.filter fun m => m.1 = "description" ∨ (m.1 = "name" ∨ m.1 = "columns") ∧ m.2 ≠ .null

theorem distinct_kept (hms : Distinct ms) : Distinct (kept ms) := hms.filter _

theorem mem_kept_iff (hms : Distinct ms) {key : Text} {value : Json} :
    (key, value) ∈ kept ms ↔
      key = "name" ∧ said ms "name" = some value ∨
      key = "description" ∧ ms.lookup ("description" : Text) = some value ∨
      key = "columns" ∧ said ms "columns" = some value := by
  simp only [kept, List.mem_filter, decide_eq_true_eq, said_eq_some_iff, lookup_eq_some_iff_mem hms]
  constructor
  · rintro ⟨hm, rfl | ⟨rfl | rfl, hvalue⟩⟩
    · exact .inr (.inl ⟨rfl, hm⟩)
    · exact .inl ⟨rfl, hm, hvalue⟩
    · exact .inr (.inr ⟨rfl, hm, hvalue⟩)
  · rintro (⟨rfl, hm, hvalue⟩ | ⟨rfl, hm⟩ | ⟨rfl, hm, hvalue⟩)
    · exact ⟨hm, .inr ⟨.inl rfl, hvalue⟩⟩
    · exact ⟨hm, .inl rfl⟩
    · exact ⟨hm, .inr ⟨.inr rfl, hvalue⟩⟩

theorem mem_member?_iff {α : Type} {name key : Text} {write : α → Json} {o : Option α} {value : Json} :
    (key, value) ∈ member? name write o ↔ key = name ∧ o.map write = some value := by
  cases o <;> simp [member?, eq_comm]

theorem mem_members_iff {key : Text} {value : Json} :
    (key, value) ∈ c.members ↔
      key = "name" ∧ c.name.map Json.str = some value ∨
      key = "description" ∧ c.description.map Json.ofText? = some value ∨
      key = "columns" ∧ c.columns.map Json.arr = some value := by
  change (key, value) ∈ member? "name" Json.str c.name ++ member? "description" Json.ofText? c.description ++
    member? "columns" Json.arr c.columns ↔ _
  rw [List.mem_append, List.mem_append, mem_member?_iff, mem_member?_iff, mem_member?_iff, or_assoc]

/-- what is written has the members that are kept of the object -/
theorem Asks.members_perm (h : Asks ms c) (hms : Distinct ms) : c.members.Perm (kept ms) := by
  apply (List.perm_ext_iff_of_nodup (c.distinct_members.of_map _) ((distinct_kept hms).of_map _)).2
  rintro ⟨key, value⟩
  rw [mem_members_iff, mem_kept_iff hms, h.name, h.description, h.columns]

/-- what is written for the changes is what is kept of the object that asked for them -/
structure WrittenBack (ms : Json.Members) (c : TableChanges) : Prop where
  members : ∃ out, shape.codec.write c = .obj out ∧ out.Perm (kept ms) ∧ Json.object out = Json.object (kept ms) ∧
    out.lookup ("description" : Text) = ms.lookup ("description" : Text)
  description : ms.lookup ("description" : Text) = none ∨ ms.lookup ("description" : Text) = some .null ∨
    ∃ t, ms.lookup ("description" : Text) = some (.str t)

theorem Asks.writtenBack (h : Asks ms c) (hms : Distinct ms) : WrittenBack ms c where
  members := by
    have hperm := h.members_perm hms
    refine ⟨c.members, rfl, hperm, congrArg Json.obj (Json.sortMembers_perm (distinct_kept hms) hperm), ?_⟩
    rw [lookup_description, h.description]
  description := by
    rw [h.description]
    rcases c.description with _ | _ | t
    · exact .inl rfl
    · exact .inr (.inl rfl)
    · exact .inr (.inr ⟨t, rfl⟩)

/-- a change request that arrives as text is read by way of its value, so it is written back as well -/
theorem writtenBack_of_text {t : Text} {entries : Json.Entries} (h : Codec.ofText shape.codec t = .ok c)
    (hobject : (Json.Document.ofText t).1 = .obj entries) : WrittenBack (entries.json []) c := by
  have hms : Distinct (entries.json []) := (entries.ascending_json List.Pairwise.nil).distinct
  have hread : shape.codec.read (.obj (entries.json [])) = .ok c := by
    have hvalue := Codec.read_of_ofText h
    rwa [hobject] at hvalue
  have hasks : Asks (entries.json []) c := (read_obj_eq_ok_iff hms).1 hread
  exact hasks.writtenBack hms

/-- **A change request is written back as it was asked for.** From every object that is read as changes, what is written for
the changes has exactly the members of the object, but for those with unknown keys and for a name or columns that are
null: it is the same object without them. The description stands in it as it did in the object, and that is absent,
null or a text. -/
theorem change_request_written_back (ms : Json.Members) (hms : Distinct ms) (c : TableChanges)
    (h : shape.codec.read (.obj ms) = .ok c) : WrittenBack ms c := by
  have hasks : Asks ms c := (read_obj_eq_ok_iff hms).1 h
  exact hasks.writtenBack hms

/-- the description is cleared, the name left alone, and one key names no field -/
theorem change_request_written_back_cleared :
    let ms : Json.Members :=
      [("columns", .arr [.int 2]), ("description", .null), ("name", .null), ("owner", .str "ada")]
    let without : Json.Members := [("columns", .arr [.int 2]), ("description", .null)]
    let c : TableChanges := ⟨none, some none, some [.int 2]⟩
    Distinct ms ∧ shape.codec.read (.obj ms) = .ok c ∧ WrittenBack ms c ∧ kept ms = without := by
  intro ms without c
  have hms : Distinct ms := by
    unfold Distinct
    decide +kernel
  have hread : shape.codec.read (.obj ms) = .ok c := by decide +kernel
  exact ⟨hms, hread, change_request_written_back ms hms c hread, by decide +kernel⟩

end TableChanges

end FaultCodes
