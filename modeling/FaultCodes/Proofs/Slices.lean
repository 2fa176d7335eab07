/-
Reading a path by slices: two searches from the right, and two slices at byte positions.

A search finds the last occurrence of a part (`lastAt?_eq_some_iff`), and a text comes apart at a byte exactly when a
beginning of it has that many bytes (`Text.splitAt?_eq_some_iff`). Of the two separators' last occurrences the one that starts
later is the last separator (`lastSeparator?_of_lastSeparated`), so both slices fall between whole characters.
- `sliced_at_last_separator`: slicing never fails, gives what `ofQualified` gives, and that is the path taken apart at the
  greatest byte at which a separator starts.
-/
import FaultCodes.Proofs.TypePath

namespace FaultCodes

open Text

namespace Text

/-! ## Searches -/

theorem lastAt?_eq_none_iff {part t : Text} : lastAt? part t = none ↔ ¬ part <:+: t := by
  induction t with
  | nil =>
    rw [lastAt?, List.infix_nil, ← List.isEmpty_iff]
    cases part.isEmpty <;> simp
  | cons c t ih =>
    rw [lastAt?, List.infix_cons_iff, ← List.isPrefixOf_iff_prefix, not_or, ← ih]
    cases lastAt? part t <;> cases part.isPrefixOf (c :: t) <;> simp

/-- the last occurrence of `part` starts at byte `n` -/
structure LastAt (part t : Text) (n : Nat) : Prop where
  occurs : ∃ before behind, t = before ++ part ++ behind ∧ before.bytes = n
  last : ∀ before behind, t = before ++ part ++ behind → before.bytes ≤ n

theorem LastAt.unique {part t : Text} {m n : Nat} (h : LastAt part t m) (h' : LastAt part t n) : m = n := by
  obtain ⟨before, behind, heq, rfl⟩ := h.occurs
  obtain ⟨before', behind', heq', rfl⟩ := h'.occurs
  exact Nat.le_antisymm (h'.last before behind heq) (h.last before' behind' heq')

theorem LastAt.cons {part t : Text} {n : Nat} (h : LastAt part t n) (c : Char) :
    LastAt part (c :: t) (c.utf8Size + n) := by
  obtain ⟨before, behind, rfl, rfl⟩ := h.occurs
  refine ⟨⟨c :: before, behind, rfl, rfl⟩, ?_⟩
  rintro (_ | ⟨c', before'⟩) behind' heq
  · exact Nat.zero_le _
  · obtain ⟨rfl, hrest⟩ := List.cons_eq_cons.1 heq
    rw [bytes_cons]
    exact Nat.add_le_add_left (h.last before' behind' hrest) _

/-- an occurrence at the start, with none behind the first character -/
theorem lastAt_zero {part t : Text} {c : Char} (h : part <+: c :: t) (hnone : ¬ part <:+: t) :
    LastAt part (c :: t) 0 := by
  obtain ⟨behind, hbehind⟩ := h
  refine ⟨⟨[], behind, hbehind.symm, rfl⟩, ?_⟩
  rintro (_ | ⟨c', before'⟩) behind' heq
  · exact Nat.le_refl 0
  · obtain ⟨-, hrest⟩ := List.cons_eq_cons.1 heq
    exact absurd ⟨before', behind', hrest.symm⟩ hnone

theorem lastAt_of_lastAt? {part t : Text} {n : Nat} (h : lastAt? part t = some n) : LastAt part t n := by
  induction t generalizing n with
  | nil =>
    rw [lastAt?] at h
    split at h
    · next hempty =>
      cases h
      rw [List.isEmpty_iff.1 hempty]
      refine ⟨⟨[], [], rfl, rfl⟩, ?_⟩
      intro before behind heq
      rw [(List.append_eq_nil_iff.1 (List.append_eq_nil_iff.1 heq.symm).1).1]
      exact Nat.le_refl 0
    · cases h
  | cons c t ih =>
    rw [lastAt?] at h
    cases hrest : lastAt? part t with
    | some k =>
      rw [hrest] at h
      cases h
      exact (ih hrest).cons c
    | none =>
      rw [hrest] at h
      simp only at h
      split at h
      · next hprefix =>
        cases h
        exact lastAt_zero (List.isPrefixOf_iff_prefix.1 hprefix) (lastAt?_eq_none_iff.1 hrest)
      · cases h

theorem lastAt?_eq_some_iff {part t : Text} {n : Nat} : lastAt? part t = some n ↔ LastAt part t n := by
  refine ⟨lastAt_of_lastAt?, fun h => ?_⟩
  cases hfound : lastAt? part t with
  | none =>
    obtain ⟨before, behind, heq, -⟩ := h.occurs
    exact absurd ⟨before, behind, heq.symm⟩ (lastAt?_eq_none_iff.1 hfound)
  | some k => rw [(lastAt_of_lastAt? hfound).unique h]

end Text

namespace TypePath

/-! ## The later of two separators -/

theorem Separator.last?_eq_none_iff {s : Separator} {path : Text} : s.last? path = none ↔ ¬ s.text <:+: path := by
  rw [last?, Option.map_eq_none_iff, lastAt?_eq_none_iff]

theorem Separator.last?_eq_some_iff {s : Separator} {path : Text} {start stop : Nat} :
    s.last? path = some (start, stop) ↔ LastAt s.text path start ∧ stop = start + s.text.bytes := by
  rw [last?, Option.map_eq_some_iff]
  constructor
  · rintro ⟨n, hn, heq⟩
    cases heq
    exact ⟨lastAt?_eq_some_iff.1 hn, rfl⟩
  · rintro ⟨hlast, rfl⟩
    exact ⟨start, lastAt?_eq_some_iff.2 hlast, rfl⟩

/-- the last separator is the last one of its kind -/
theorem LastSeparated.last?_eq {path before behind : Text} {s : Separator} (h : LastSeparated path before s behind) :
    s.last? path = some (before.bytes, before.bytes + s.text.bytes) :=
  Separator.last?_eq_some_iff.2 ⟨⟨⟨before, behind, h.eq, rfl⟩, h.last s⟩, rfl⟩

/-- every separator of the other kind starts earlier -/
theorem LastSeparated.start_lt {path before behind : Text} {s s' : Separator} (h : LastSeparated path before s behind)
    (hne : s' ≠ s) {ends : Nat × Nat} (hends : s'.last? path = some ends) : ends.1 < before.bytes := by
  obtain ⟨⟨before', behind', heq, hbytes⟩, hlast⟩ := (Separator.last?_eq_some_iff.1 hends).1
  rw [← hbytes]
  refine Nat.lt_of_le_of_ne (h.last s' before' behind' heq) fun hsame => hne ?_
  have hlast' : LastSeparated path before' s' behind' :=
    ⟨heq, fun s'' b b' hb => hsame ▸ h.last s'' b b' hb⟩
  exact (hlast'.unique h).2.1

theorem lastSeparator?_of_lastSeparated {path before behind : Text} {s : Separator}
    (h : LastSeparated path before s behind) :
    lastSeparator? path = some (before.bytes, before.bytes + s.text.bytes) := by
  unfold lastSeparator?
  cases s with
  | dot =>
    rw [h.last?_eq]
    cases hc : Separator.colons.last? path with
    | none => rfl
    | some c => exact congrArg some (if_pos (h.start_lt (by decide) hc))
  | colons =>
    rw [h.last?_eq]
    cases hd : Separator.dot.last? path with
    | none => rfl
    | some d => exact congrArg some (if_neg (Nat.lt_asymm (h.start_lt (by decide) hd)))

theorem lastSeparator?_of_unseparated {path : Text} (h : Unseparated path) : lastSeparator? path = none := by
  rw [lastSeparator?, Separator.last?_eq_none_iff.2 (h .dot), Separator.last?_eq_none_iff.2 (h .colons)]
  rfl

/-! ## Slices -/

theorem slice?_of_lastSeparated {path before behind : Text} {s : Separator} (h : LastSeparated path before s behind) :
    slice? path = some ⟨before, behind⟩ := by
  have hbefore : splitAt? before.bytes path = some (before, s.text ++ behind) :=
    splitAt?_eq_some_iff.2 ⟨by rw [h.eq, List.append_assoc], rfl⟩
  have hbehind : splitAt? (before.bytes + s.text.bytes) path = some (before ++ s.text, behind) :=
    splitAt?_eq_some_iff.2 ⟨h.eq, bytes_append _ _⟩
  rw [slice?, lastSeparator?_of_lastSeparated h]
  simp only [hbefore, hbehind, Option.bind_eq_bind, Option.bind_some, Option.pure_def]

theorem slice?_eq (path : Text) : slice? path = some (ofQualified path) := by
  by_cases h : Unseparated path
  · rw [slice?, lastSeparator?_of_unseparated h, ofQualified_of_unseparated h]
  · obtain ⟨s, hs⟩ := exists_lastSeparated h
    exact slice?_of_lastSeparated hs

/-- **Slicing a path takes it apart at its last separator.** It never fails, because both slices begin and end with whole
characters, and gives what `ofQualified` gives. A path with no separator is a bare name. Any other is its module, a
separator and its name; no separator starts at a greater byte of the path; the name has no separator in it, and does not
begin with a colon behind a double colon. -/
theorem sliced_at_last_separator (path : Text) :
    slice? path = some (ofQualified path) ∧
    (Unseparated path → ofQualified path = ⟨[], path⟩) ∧
    (¬ Unseparated path → ∃ s : Separator,
      path = (ofQualified path).module ++ s.text ++ (ofQualified path).name ∧
      (∀ (s' : Separator) (before behind : Text),
        path = before ++ s'.text ++ behind → before.bytes ≤ (ofQualified path).module.bytes) ∧
      Unseparated (ofQualified path).name ∧ (s = .colons → ¬ [':'] <+: (ofQualified path).name)) := by
  refine ⟨slice?_eq path, ofQualified_of_unseparated, ?_⟩
  intro h
  obtain ⟨s, hs⟩ := exists_lastSeparated h
  obtain ⟨hname, hcolon⟩ := unseparated_tail_iff.1 (lastSeparated_iff.1 hs).2
  exact ⟨s, hs.eq, hs.last, hname, hcolon⟩

example : slice? "й:::b" = some ⟨"й:", "b"⟩ := by decide

end TypePath

end FaultCodes
