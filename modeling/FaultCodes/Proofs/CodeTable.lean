/-
Look-ups in a code table.

A table is a list of entries; what it lists is membership in that list. When no name is repeated, a look-up and
membership are the same thing.
- `distinctNames_eq_length_iff`, `ofEntries?_eq_ok_iff`: a table is built exactly when no name is repeated.
- `lookup_eq_some_iff`: in such a table a look-up finds the code that the list gives.
- `codeFor_eq_some_iff`: the typed look-up finds the same code, and only when the origin's block holds it.
-/
import FaultCodes.CodeTable
import FaultCodes.Proofs.Lookup

namespace FaultCodes.CodeTable

/-- no name stands twice -/
def Keyed (entries : List Entry) : Prop := (entries.map Prod.fst).Nodup

/-! ## When a table is built -/

theorem distinctNames_le (entries : List Entry) : distinctNames entries ≤ entries.length := by
  induction entries with
  | nil => exact Nat.le_refl _
  | cons e es ih =>
    simp only [distinctNames, List.length_cons]
    split <;> omega

theorem any_name_iff (entries : List Entry) (name : Text) :
    entries.any (·.1 = name) = true ↔ name ∈ entries.map Prod.fst := by
  simp only [List.any_eq_true, decide_eq_true_eq, List.mem_map]

theorem distinctNames_eq_length_iff (entries : List Entry) :
    distinctNames entries = entries.length ↔ Keyed entries := by
  induction entries with
  | nil => exact ⟨fun _ => List.nodup_nil, fun _ => rfl⟩
  | cons e es ih =>
    have hle := distinctNames_le es
    rw [Keyed, List.map_cons, List.nodup_cons, ← any_name_iff, ← Keyed, ← ih]
    simp only [distinctNames, List.length_cons]
    by_cases h : es.any (·.1 = e.1) = true
    · simp only [h, if_true, not_true_eq_false, false_and, iff_false]
      omega
    · simp only [h, Bool.false_eq_true, if_false, not_false_eq_true, true_and]
      omega

theorem ofEntries?_eq_ok_iff {o : Origin} {entries : List Entry} {t : CodeTable} :
    ofEntries? o entries = .ok t ↔ Keyed entries ∧ t = ⟨o, entries⟩ := by
  rw [ofEntries?, ← distinctNames_eq_length_iff]
  split
  · next h => simp [h, eq_comm]
  · next h => simp [h]

/-! ## What a look-up finds -/

theorem mem_of_lookup {t : CodeTable} {name : Text} {code : Int32} (h : t.lookup name = some code) :
    (name, code) ∈ t.entries :=
  mem_of_lookup_eq_some h

/-- In a table without repeated names a look-up finds what is listed. -/
theorem lookup_eq_some_iff {t : CodeTable} (hk : Keyed t.entries) {name : Text} {code : Int32} :
    t.lookup name = some code ↔ (name, code) ∈ t.entries :=
  lookup_eq_some_iff_mem hk

/-- The typed look-up finds the listed code when the origin's block holds it. -/
theorem codeFor_eq_some_iff {t : CodeTable} {name : Text} {c : ErrorCode} :
    t.codeFor name = some c ↔ t.lookup name = some c.value ∧ c.origin = t.origin := by
  rw [codeFor, Option.bind_eq_some_iff]
  constructor
  · rintro ⟨value, hl, hc⟩
    unfold ErrorCode.ofValue? at hc
    split at hc
    · cases hc
      exact ⟨hl, rfl⟩
    · cases hc
  · rintro ⟨hl, ho⟩
    obtain ⟨origin, value, inBlock⟩ := c
    subst ho
    exact ⟨value, hl, by simp [ErrorCode.ofValue?, inBlock, Except.toOption]⟩

end FaultCodes.CodeTable
