/-
Reading records: what a reader that succeeds has read.

- `readItems_eq_ok_iff`: the items of an array are read when each of them is, in order.
- `build_field_eq_ok_iff`: one more field of a record is taken from its member, or has the value it takes when absent; and
  so are all of them (`build_eq_ok_iff_collects`).
- `Layout.builds_of_readMembers`: a record read from members is built from some values by the function of its layout.
- `Layout.readMembers_eq_ok_iff`: from members with distinct keys a record is read when each of its fields is, and the
  order of the members does not matter (`Layout.build_perm`).
- `Shape.readsBack`, `Flattened.readsBack`: so it is enough to look at the members in the order in which they are written.
-/
import FaultCodes.Record.Layout
import FaultCodes.Proofs.Lookup
import FaultCodes.Proofs.Outcome

namespace FaultCodes.Record

open FaultCodes.Json

/-! ## Arrays -/

theorem readItems_eq_ok_iff {α : Type} (read : Json → Except Problem α) (items : List Json) (values : List α) :
    Codec.readItems read items = .ok values ↔ List.Forall₂ (fun item value => read item = .ok value) items values := by
  induction items generalizing values with
  | nil =>
    constructor
    · rintro ⟨⟩
      exact .nil
    · rintro ⟨⟩
      rfl
  | cons item items ih =>
    simp only [Codec.readItems, except_bind_eq_ok_iff, ih, List.forall₂_cons_left_iff]
    constructor
    · rintro ⟨value, hvalue, rest, hrest, h⟩
      exact ⟨value, rest, hvalue, hrest, (Except.ok.inj h).symm⟩
    · rintro ⟨value, rest, hvalue, hrest, rfl⟩
      exact ⟨value, hvalue, rest, hrest, rfl⟩

/-! ## Layouts -/

/-- the value that the field takes from members: its own member read, or else the value it has when absent -/
def Field.Takes {α : Type} (f : Field α) (ms : Members) (a : α) : Prop :=
  match ms.lookup f.name with
  | some value => f.codec.read value = .ok a
  | none => f.absent = some a

namespace Field

variable {α : Type} {f : Field α} {ms : Members} {a : α} {value : Json}

theorem takes_iff_of_lookup (h : ms.lookup f.name = some value) : f.Takes ms a ↔ f.codec.read value = .ok a := by
  unfold Takes
  rw [h]

theorem takes_iff_of_absent (h : ms.lookup f.name = none) : f.Takes ms a ↔ f.absent = some a := by
  unfold Takes
  rw [h]

theorem takes_of_lookup (h : ms.lookup f.name = some value) (hread : f.codec.read value = .ok a) : f.Takes ms a :=
  (takes_iff_of_lookup h).2 hread

theorem takes_of_absent (h : ms.lookup f.name = none) (habsent : f.absent = some a) : f.Takes ms a :=
  (takes_iff_of_absent h).2 habsent

/-- a field that is left out takes the value declared for that -/
theorem Takes.eq_default {name : Text} {codec : Codec α} {default : α} (h : (defaulted name codec default).Takes ms a)
    (habsent : ms.lookup name = none) : a = default :=
  (Option.some.inj ((takes_iff_of_absent habsent).1 h)).symm

end Field

namespace Layout

theorem build_field_eq_ok_iff {α β : Type} {rest : Layout (α → β)} {f : Field α} {ms : Members} {b : β} :
    (Layout.field rest f).build ms = .ok b ↔ ∃ g a, rest.build ms = .ok g ∧ f.Takes ms a ∧ g a = b := by
  simp only [build, except_bind_eq_ok_iff, Field.Takes]
  refine exists_congr fun g => ?_
  cases ms.lookup f.name with
  | some value => simp only [except_map_eq_ok_iff, exists_and_left]
  | none => cases f.absent <;> simp

/-- the values that the fields take from members, given to the function of the layout -/
def Collects (ms : Members) : {α : Type} → Layout α → α → Prop
  | _, .pure a, b => a = b
  | _, .field rest f, b => ∃ g a, rest.Collects ms g ∧ f.Takes ms a ∧ g a = b

theorem build_eq_ok_iff_collects {α : Type} {l : Layout α} {ms : Members} {a : α} :
    l.build ms = .ok a ↔ l.Collects ms a := by
  induction l with
  | pure a' => exact ⟨Except.ok.inj, congrArg Except.ok⟩
  | field rest f ih =>
    rw [build_field_eq_ok_iff]
    unfold Collects
    simp only [ih]

/-- what the function of the layout can build, whatever values its fields have -/
def Builds : {α : Type} → Layout α → α → Prop
  | _, .pure a, b => a = b
  | _, .field rest _, b => ∃ g a, rest.Builds g ∧ g a = b

theorem builds_of_build {α : Type} {l : Layout α} {ms : Members} {a : α} (h : l.build ms = .ok a) : l.Builds a := by
  induction l with
  | pure a' => exact Except.ok.inj h
  | field rest f ih =>
    obtain ⟨g, b, hg, -, rfl⟩ := build_field_eq_ok_iff.1 h
    exact ⟨g, b, ih hg, rfl⟩

theorem build_of_readMembers {α : Type} {l : Layout α} {ms : Members} {a : α} (h : l.readMembers ms = .ok a) :
    l.build ms = .ok a := by
  unfold readMembers at h
  split at h
  · cases h
  · exact h

theorem builds_of_readMembers {α : Type} {l : Layout α} {ms : Members} {a : α} (h : l.readMembers ms = .ok a) :
    l.Builds a :=
  builds_of_build (build_of_readMembers h)

end Layout

/-! ## Members with distinct keys -/

/-- no key stands twice -/
def Distinct (ms : Members) : Prop :=
  (ms.map Prod.fst).Nodup

theorem Distinct.filter {ms : Members} (hms : Distinct ms) (keep : Text × Json → Bool) : Distinct (ms.filter keep) :=
  (List.filter_sublist.map Prod.fst).nodup hms

theorem Distinct.perm {ms ms' : Members} (hms : Distinct ms) (h : ms'.Perm ms) : Distinct ms' :=
  (h.map Prod.fst).nodup_iff.2 hms

theorem mem_insert {m : Text × Json} {key : Text} {value : Json} {ms : Members} (h : m ∈ insert key value ms) :
    m = (key, value) ∨ m ∈ ms := by
  induction ms with
  | nil => exact .inl (List.mem_singleton.1 h)
  | cons m' ms ih =>
    unfold Json.insert at h
    split at h
    · exact List.mem_cons.1 h
    split at h
    · rcases List.mem_cons.1 h with hm | hm
      · exact .inl hm
      · exact .inr (List.mem_cons_of_mem _ hm)
    · rcases List.mem_cons.1 h with hm | hm
      · exact .inr (hm ▸ List.mem_cons_self)
      · rcases ih hm with hm | hm
        · exact .inl hm
        · exact .inr (List.mem_cons_of_mem _ hm)

theorem mem_of_mem_foldl_insert {m : Text × Json} {ms sorted : Members}
    (h : m ∈ ms.foldl (fun sorted m => insert m.1 m.2 sorted) sorted) : m ∈ sorted ∨ m ∈ ms := by
  induction ms generalizing sorted with
  | nil => exact .inl h
  | cons m' ms ih =>
    rcases ih h with hm | hm
    · rcases mem_insert hm with rfl | hm
      · exact .inr List.mem_cons_self
      · exact .inl hm
    · exact .inr (List.mem_cons_of_mem _ hm)

/-- sorting brings in no member -/
theorem mem_of_mem_sortMembers {m : Text × Json} {ms : Members} (h : m ∈ sortMembers ms) : m ∈ ms := by
  rcases mem_of_mem_foldl_insert h with hm | hm
  · exact absurd hm List.not_mem_nil
  · exact hm

theorem Field.takes_of_mem {α : Type} {f : Field α} {ms : Members} {a : α} {value : Json} (hms : Distinct ms)
    (hm : (f.name, value) ∈ ms) (hread : f.codec.read value = .ok a) : f.Takes ms a :=
  takes_of_lookup ((lookup_eq_some_iff_mem hms).2 hm) hread

namespace Layout

theorem build_perm {α : Type} {l : Layout α} {ms ms' : Members} (hms : Distinct ms) (h : ms'.Perm ms) :
    l.build ms' = l.build ms := by
  induction l with
  | pure a => rfl
  | field rest f ih => rw [build, build, ih, lookup_perm hms h]

/-- what a field takes is what it would be asked about the member with its name -/
theorem memberProblem_eq_none {α : Type} {l : Layout α} {ms : Members} {a : α} (hms : Distinct ms)
    (h : l.build ms = .ok a) {key : Text} {value : Json} (hm : (key, value) ∈ ms) : l.memberProblem key value = none := by
  induction l with
  | pure a' => rfl
  | field rest f ih =>
    obtain ⟨g, b, hg, htakes, -⟩ := build_field_eq_ok_iff.1 h
    unfold memberProblem
    split
    · next hname =>
      unfold Field.Takes at htakes
      rw [hname, (lookup_eq_some_iff_mem hms).2 hm] at htakes
      rw [htakes]
    · exact ih hg

/-- From members with distinct keys a record is read when its fields can be taken from them. -/
theorem readMembers_eq_ok_iff {α : Type} {l : Layout α} {ms : Members} {a : α} (hms : Distinct ms) :
    l.readMembers ms = .ok a ↔ l.build ms = .ok a := by
  refine ⟨build_of_readMembers, fun h => ?_⟩
  have hproblem : l.firstProblem (sortMembers ms) = none := by
    unfold firstProblem
    rw [List.findSome?_eq_none_iff]
    rintro ⟨key, value⟩ hm
    exact memberProblem_eq_none hms h (mem_of_mem_sortMembers hm)
  rw [readMembers, hproblem]
  exact h

theorem readMembers_perm {α : Type} {l : Layout α} {ms ms' : Members} {a : α} (hms : Distinct ms) (h : ms'.Perm ms)
    (hbuild : l.build ms = .ok a) : l.readMembers ms' = .ok a := by
  rw [readMembers_eq_ok_iff (hms.perm h), build_perm hms h]
  exact hbuild

end Layout

/-! ## Records that are read back -/

/-- what is written for `a` is an object, and it is read as `b`, in whatever order its members stand -/
def Codec.ReadsBack {α : Type} (c : Codec α) (a b : α) : Prop :=
  ∃ ms, c.write a = .obj ms ∧ ∀ ms' : Members, ms'.Perm ms → c.read (.obj ms') = .ok b

theorem Codec.ReadsBack.read_write {α : Type} {c : Codec α} {a b : α} (h : c.ReadsBack a b) :
    c.read (c.write a) = .ok b := by
  obtain ⟨ms, hwrite, hread⟩ := h
  rw [hwrite]
  exact hread ms (.refl ms)

theorem Shape.readsBack {α : Type} {s : Shape α} {a b : α} {ms : Members} (hwrite : s.write a = .obj ms)
    (hms : Distinct ms) (hbuild : s.layout.build ms = .ok b) : s.codec.ReadsBack a b :=
  ⟨ms, hwrite, fun _ h => Layout.readMembers_perm hms h hbuild⟩

theorem Flattened.readsBack {β α : Type} {s : Flattened β α} {a : α} {g : β → α} {b : β} {ms : Members}
    (hwrite : s.write a = .obj ms) (hms : Distinct ms) (hown : s.own.build ms = .ok g)
    (hinner : ∀ ms' : Members, ms'.Perm ms → s.readInner ms' = .ok b) : s.codec.ReadsBack a (g b) := by
  refine ⟨ms, hwrite, fun ms' h => ?_⟩
  apply except_bind_eq_ok_iff.2
  refine ⟨g, Layout.readMembers_perm hms h hown, except_bind_eq_ok_iff.2 ⟨b, hinner ms' h, rfl⟩⟩

end FaultCodes.Record
