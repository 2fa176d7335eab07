/-
Look-ups in a list of pairs with texts as keys.

When no key stands twice, a look-up and membership are one thing, and the order of the pairs does not matter. After a
run of writes a look-up finds the last of them (`lookup_foldl`).
-/
import Mathlib.Data.List.Nodup
import FaultCodes.Text

namespace FaultCodes

variable {β : Type} {l l' : List (Text × β)} {key : Text} {value : β}

theorem lookup_cons_eq (pair : Text × β) (l : List (Text × β)) (key : Text) :
    (pair :: l).lookup key = if key = pair.1 then some pair.2 else l.lookup key := by
  obtain ⟨k, value⟩ := pair
  rw [List.lookup_cons]
  by_cases h : key = k
  · simp [h]
  · simp [h, beq_false_of_ne h]

theorem lookup_eq_none_iff_not_mem : l.lookup key = none ↔ ∀ value, (key, value) ∉ l := by
  rw [List.lookup_eq_none_iff]
  constructor
  · intro h value hm
    simpa using h _ hm
  · rintro h ⟨k, value⟩ hm
    rw [bne_iff_ne]
    rintro rfl
    exact h value hm

theorem mem_of_lookup_eq_some (h : l.lookup key = some value) : (key, value) ∈ l := by
  obtain ⟨before, after, hs, -⟩ := List.lookup_eq_some_iff.1 h
  rw [hs]
  exact List.mem_append_right _ List.mem_cons_self

/-- Where no key stands twice, a look-up finds what is in the list. -/
theorem lookup_eq_some_iff_mem (hkeys : (l.map Prod.fst).Nodup) : l.lookup key = some value ↔ (key, value) ∈ l := by
  refine ⟨mem_of_lookup_eq_some, fun hm => ?_⟩
  cases hl : l.lookup key with
  | none => exact absurd hm (lookup_eq_none_iff_not_mem.1 hl value)
  | some found =>
    obtain ⟨-, rfl⟩ := Prod.mk.inj (List.inj_on_of_nodup_map hkeys (mem_of_lookup_eq_some hl) hm rfl)
    rfl

/-- Where no key stands twice, the order of the pairs does not matter. -/
theorem lookup_perm (hkeys : (l.map Prod.fst).Nodup) (h : l'.Perm l) (key : Text) : l'.lookup key = l.lookup key := by
  have hkeys' : (l'.map Prod.fst).Nodup := (h.map Prod.fst).nodup_iff.2 hkeys
  apply Option.ext
  intro value
  rw [lookup_eq_some_iff_mem hkeys', lookup_eq_some_iff_mem hkeys, h.mem_iff]

theorem lookup_filter (keep : Text → Bool) (l : List (Text × β)) (key : Text) :
    (l.filter fun pair => keep pair.1).lookup key = if keep key then l.lookup key else none := by
  induction l with
  | nil => simp
  | cons pair l ih =>
    rw [List.filter_cons, lookup_cons_eq]
    by_cases hpair : keep pair.1 = true
    · rw [if_pos hpair, lookup_cons_eq, ih]
      by_cases h : key = pair.1
      · subst h
        simp [hpair]
      · simp [h]
    · rw [if_neg hpair, ih]
      by_cases h : key = pair.1
      · subst h
        simp [hpair]
      · simp [h]

/-- After a run of writes, each of which sets one key, a look-up finds the last write to its key. -/
theorem lookup_foldl {write : List (Text × β) → Text × β → List (Text × β)}
    (hwrite : ∀ l pair key, (write l pair).lookup key = if key = pair.1 then some pair.2 else l.lookup key)
    (pairs l : List (Text × β)) (key : Text) :
    (pairs.foldl write l).lookup key = (pairs.reverse.lookup key).or (l.lookup key) := by
  induction pairs generalizing l with
  | nil => rfl
  | cons pair pairs ih =>
    rw [List.foldl_cons, ih, hwrite, List.reverse_cons, List.lookup_append, Option.or_assoc, lookup_cons_eq]
    by_cases h : key = pair.1 <;> simp [h]

end FaultCodes
