/-
Members of objects in key order, and records that are read from them.

The members of an object are sorted by their keys before they are looked at, so what is found first does not depend on
the order in which they were written.
- `lookup_sortMembers`: sorting keeps the last of several members with one key.
- `ascending_sortMembers`, `Ascending.eq_of_lookup`: sorted members are determined by what is found under their keys.
- `Entries.ascending_json`: the members of an object in a text are in key order, whatever stands twice in the text.
- `Layout.readMembers_congr`: what is read from an object, a problem included, depends only on what stands under the names
  of its fields.
-/
import Mathlib.Data.List.Nodup
import FaultCodes.Proofs.Record

namespace FaultCodes

namespace Json

/-! ## Key order -/

/-- the keys increase strictly -/
def Ascending (ms : Members) : Prop :=
  ms.Pairwise fun m m' => m.1 < m'.1

variable {ms ms' : Members}

theorem lookup_insert (key : Text) (value : Json) (ms : Members) (k : Text) :
    (insert key value ms).lookup k = if k = key then some value else ms.lookup k := by
  induction ms with
  | nil => exact lookup_cons_eq (key, value) [] k
  | cons m ms ih =>
    obtain ⟨key', value'⟩ := m
    unfold insert
    by_cases hlt : key < key'
    · rw [if_pos hlt, lookup_cons_eq]
    by_cases heq : key = key'
    · subst heq
      rw [if_neg hlt, if_pos rfl, lookup_cons_eq, lookup_cons_eq]
      by_cases hk : k = key <;> simp [hk]
    · rw [if_neg hlt, if_neg heq, lookup_cons_eq, lookup_cons_eq, ih]
      by_cases hk : k = key
      · simp [hk, heq]
      · simp [hk]

/-- sorting keeps the last of several members with one key -/
theorem lookup_sortMembers (ms : Members) (key : Text) : (sortMembers ms).lookup key = ms.reverse.lookup key := by
  have hwrites := lookup_foldl (fun sorted m k => lookup_insert m.1 m.2 sorted k) ms [] key
  exact hwrites.trans Option.or_none

theorem ascending_insert (h : Ascending ms) (key : Text) (value : Json) : Ascending (insert key value ms) := by
  induction ms with
  | nil => exact List.pairwise_singleton _ _
  | cons m ms ih =>
    obtain ⟨hhead, htail⟩ := List.pairwise_cons.1 h
    obtain ⟨key', value'⟩ := m
    unfold insert
    by_cases hlt : key < key'
    · rw [if_pos hlt]
      refine List.pairwise_cons.2 ⟨fun m hm => ?_, h⟩
      rcases List.mem_cons.1 hm with rfl | hm
      · exact hlt
      · exact List.lt_trans hlt (hhead m hm)
    by_cases heq : key = key'
    · subst heq
      rw [if_neg hlt, if_pos rfl]
      exact List.pairwise_cons.2 ⟨hhead, htail⟩
    · rw [if_neg hlt, if_neg heq]
      refine List.pairwise_cons.2 ⟨fun m hm => ?_, ih htail⟩
      rcases Record.mem_insert hm with rfl | hm
      · apply Classical.byContradiction
        intro hgt
        exact heq (Std.Trichotomous.trichotomous key key' hlt hgt)
      · exact hhead m hm

theorem ascending_foldl_insert {sorted : Members} (h : Ascending sorted) (ms : Members) :
    Ascending (ms.foldl (fun sorted m => insert m.1 m.2 sorted) sorted) := by
  induction ms generalizing sorted with
  | nil => exact h
  | cons m ms ih => exact ih (ascending_insert h m.1 m.2)

theorem ascending_sortMembers (ms : Members) : Ascending (sortMembers ms) :=
  ascending_foldl_insert List.Pairwise.nil ms

theorem Ascending.distinct (h : Ascending ms) : Record.Distinct ms := by
  apply List.pairwise_map.2
  apply h.imp
  intro m m' hlt heq
  rw [heq] at hlt
  exact List.lt_irrefl _ hlt

/-- members in key order are determined by what is found under their keys -/
theorem Ascending.eq_of_lookup (h : Ascending ms) (h' : Ascending ms') (hlookup : ∀ key, ms.lookup key = ms'.lookup key) :
    ms = ms' := by
  have hmem : ∀ m, m ∈ ms ↔ m ∈ ms' := by
    rintro ⟨key, value⟩
    rw [← lookup_eq_some_iff_mem h.distinct, ← lookup_eq_some_iff_mem h'.distinct, hlookup]
  have hperm : ms.Perm ms' := (List.perm_ext_iff_of_nodup (h.distinct.of_map _) (h'.distinct.of_map _)).2 hmem
  apply hperm.eq_of_pairwise _ h h'
  intro m m' _ _ hlt hgt
  exact absurd hgt (List.lt_asymm hlt)

/-- the same members in another order are the same object -/
theorem sortMembers_perm (hms : Record.Distinct ms) (h : ms'.Perm ms) : sortMembers ms' = sortMembers ms := by
  apply Ascending.eq_of_lookup (ascending_sortMembers ms') (ascending_sortMembers ms)
  intro key
  have hreverse : ms'.reverse.Perm ms.reverse := (ms'.reverse_perm.trans h).trans ms.reverse_perm.symm
  rw [lookup_sortMembers, lookup_sortMembers, lookup_perm (hms.perm ms.reverse_perm) hreverse]

/-- what sorting makes of the members that are kept depends only on what stands under their keys -/
theorem filter_sortMembers_congr (hms : Record.Distinct ms) (hms' : Record.Distinct ms') {keep : Text → Bool}
    (hlookup : ∀ key, keep key = true → ms.lookup key = ms'.lookup key) :
    (sortMembers ms).filter (fun m => keep m.1) = (sortMembers ms').filter fun m => keep m.1 := by
  apply Ascending.eq_of_lookup ((ascending_sortMembers ms).filter _) ((ascending_sortMembers ms').filter _)
  intro key
  rw [lookup_filter, lookup_filter, lookup_sortMembers, lookup_sortMembers, lookup_perm hms ms.reverse_perm,
    lookup_perm hms' ms'.reverse_perm]
  by_cases hkeep : keep key = true
  · rw [if_pos hkeep, if_pos hkeep, hlookup key hkeep]
  · rw [if_neg hkeep, if_neg hkeep]

/-- the members of an object in a text are in key order -/
theorem Entries.ascending_json : (entries : Entries) → {before : Members} → Ascending before →
    Ascending (entries.json before)
  | .stop _, _, h => h
  | .endAfterComma, _, h => h
  | .entry key d rest, before, h => by
    unfold Entries.json
    split
    · exact rest.ascending_json (ascending_insert h _ _)
    · exact rest.ascending_json h

end Json

namespace Record

open FaultCodes.Json

/-! ## Reading by names -/

namespace Layout

variable {α : Type} {l : Layout α} {ms ms' : Members}

theorem memberProblem_of_not_mem {key : Text} (h : key ∉ l.names) (value : Json) : l.memberProblem key value = none := by
  induction l with
  | pure a => rfl
  | field rest f ih =>
    unfold names at h
    rw [List.mem_append, List.mem_singleton, not_or] at h
    unfold memberProblem
    rw [if_neg (Ne.symm h.2)]
    exact ih h.1

theorem firstProblem_cons (l : Layout α) (key : Text) (value : Json) (ms : Members) :
    l.firstProblem ((key, value) :: ms) = (l.memberProblem key value).or (l.firstProblem ms) := by
  unfold firstProblem
  rw [List.findSome?_cons]
  dsimp only
  cases l.memberProblem key value <;> rfl

/-- members that name no field cause no problem -/
theorem firstProblem_filter (l : Layout α) (ms : Members) :
    l.firstProblem (ms.filter fun m => l.names.contains m.1) = l.firstProblem ms := by
  induction ms with
  | nil => rfl
  | cons m ms ih =>
    obtain ⟨key, value⟩ := m
    rw [firstProblem_cons, List.filter_cons]
    by_cases hname : key ∈ l.names
    · rw [if_pos (List.contains_iff_mem.2 hname), firstProblem_cons, ih]
    · rw [if_neg (mt List.contains_iff_mem.1 hname), ih, memberProblem_of_not_mem hname, Option.none_or]

theorem build_congr (h : ∀ name ∈ l.names, ms.lookup name = ms'.lookup name) : l.build ms = l.build ms' := by
  induction l with
  | pure a => rfl
  | field rest f ih =>
    unfold names at h
    have hrest := ih fun name hm => h name (List.mem_append_left _ hm)
    have hfield := h f.name (List.mem_append_right _ (List.mem_singleton_self _))
    rw [build, build, hrest, hfield]

/-- What is read from an object, a problem included, depends only on what stands under the names of the fields. -/
theorem readMembers_congr (hms : Distinct ms) (hms' : Distinct ms')
    (h : ∀ name ∈ l.names, ms.lookup name = ms'.lookup name) : l.readMembers ms = l.readMembers ms' := by
  have hsorted : (sortMembers ms).filter (fun m => l.names.contains m.1) =
      (sortMembers ms').filter fun m => l.names.contains m.1 :=
    filter_sortMembers_congr hms hms' fun key hkey => h key (List.contains_iff_mem.1 hkey)
  have hproblem : l.firstProblem (sortMembers ms) = l.firstProblem (sortMembers ms') := by
    rw [← firstProblem_filter, hsorted, firstProblem_filter]
  rw [readMembers, readMembers, hproblem, build_congr h]

end Layout

end Record

end FaultCodes
