/-
Beginnings of a text, cuts and clips, letters, and texts without control characters.

Every character has at least one byte, so the size of a beginning says which beginning it is (`eq_of_prefixes`).
- `cut_isPrefix`, `cut_eq_self`, `cut_cut`: a cut is a beginning, is all of a text that fits, and can be cut further.
- `longestWithin_cut`: it is the longest beginning that fits.
- `bytes_clip_le`: a clipped text fits when the marker does; `bytes_clip_eq_iff`: it loses bytes when something is cut.
- `splitAt?_eq_some_iff`, `cutBack_eq`, `truncate?_eq`: where a text comes apart, and that cutting and truncating by
  positions come to the cut and the clip.
- `isAlpha_iff`: the letters by their code points.
- `ControlFree.clip`: clipping brings in no control character.
-/
import FaultCodes.Text.Control

namespace FaultCodes.Text

/-! ## Beginnings, ends and parts -/

theorem eq_nil_of_bytes_eq_zero {t : Text} (h : bytes t = 0) : t = [] := by
  cases t with
  | nil => rfl
  | cons c t =>
    have := c.utf8Size_pos
    rw [bytes_cons] at h
    omega

theorem bytes_le_of_prefix {s t : Text} (h : s <+: t) : bytes s ≤ bytes t := by
  obtain ⟨rest, rfl⟩ := h
  rw [bytes_append]
  exact Nat.le_add_right _ _

theorem bytes_le_of_suffix {s t : Text} (h : s <:+ t) : bytes s ≤ bytes t := by
  obtain ⟨rest, rfl⟩ := h
  rw [bytes_append]
  exact Nat.le_add_left _ _

theorem eq_of_prefix_of_bytes_eq {s t : Text} (h : s <+: t) (hb : bytes s = bytes t) : s = t := by
  obtain ⟨rest, rfl⟩ := h
  rw [bytes_append] at hb
  rw [eq_nil_of_bytes_eq_zero (show bytes rest = 0 by omega), List.append_nil]

/-- two beginnings of one text with the same number of bytes are the same text -/
theorem eq_of_prefixes {s s' t : Text} (h : s <+: t) (h' : s' <+: t) (hb : bytes s = bytes s') : s = s' := by
  rcases List.prefix_or_prefix_of_prefix h h' with hs | hs
  · exact eq_of_prefix_of_bytes_eq hs hb
  · exact (eq_of_prefix_of_bytes_eq hs hb.symm).symm

/-- a beginning whose last character does not occur in the second part ends within the first -/
theorem prefix_of_prefix_append {s u v : Text} {c : Char} (h : s ++ [c] <+: u ++ v) (hc : c ∉ v) : s ++ [c] <+: u := by
  rcases List.prefix_or_prefix_of_prefix h (List.prefix_append u v) with hs | hu
  · exact hs
  rcases List.prefix_concat_iff.1 hu with heq | ⟨rest, rfl⟩
  · exact heq ▸ List.prefix_refl _
  · rw [List.append_assoc, List.prefix_append_right_inj] at h
    exact absurd (h.subset (List.mem_append_right _ (List.mem_singleton_self c))) hc

theorem contains_eq_true_iff {part t : Text} : contains part t = true ↔ part <:+: t := by
  induction t with
  | nil => rw [contains, List.isEmpty_iff, List.infix_nil]
  | cons c t ih => rw [contains, Bool.or_eq_true, ih, List.isPrefixOf_iff_prefix, List.infix_cons_iff]

/-! ## Cuts and clips -/

theorem cut_isPrefix (n : Nat) (t : Text) : cut n t <+: t := by
  induction t generalizing n with
  | nil => exact List.prefix_refl _
  | cons c t ih =>
    rw [cut]
    split
    · exact (List.prefix_cons_inj c).2 (ih _)
    · exact List.nil_prefix

theorem cut_eq_self {n : Nat} {t : Text} (h : bytes t ≤ n) : cut n t = t := by
  induction t generalizing n with
  | nil => rfl
  | cons c t ih =>
    rw [bytes_cons] at h
    rw [cut, if_pos (by omega), ih (by omega)]

theorem cut_zero (t : Text) : cut 0 t = [] := eq_nil_of_bytes_eq_zero (Nat.le_zero.1 (bytes_cut_le 0 t))

theorem cut_cut {m n : Nat} (h : m ≤ n) (t : Text) : cut m (cut n t) = cut m t := by
  induction t generalizing m n with
  | nil => rfl
  | cons c t ih =>
    by_cases hm : c.utf8Size ≤ m
    · have hn : c.utf8Size ≤ n := Nat.le_trans hm h
      rw [cut, if_pos hn, cut, if_pos hm, cut, if_pos hm, ih (by omega)]
    · rw [cut]
      split
      · rw [cut, if_neg hm, cut, if_neg hm]
      · rw [cut, cut, if_neg hm]

/-- the longest beginning of `t` that fits into `n` bytes: it is one, and every other one is a beginning of it -/
structure LongestWithin (n : Nat) (t s : Text) : Prop where
  isPrefix : s <+: t
  fits : bytes s ≤ n
  longest : ∀ s', s' <+: t → bytes s' ≤ n → s' <+: s

theorem prefix_cut {n : Nat} {s t : Text} (h : s <+: t) (hs : bytes s ≤ n) : s <+: cut n t := by
  induction t generalizing n s with
  | nil => exact h
  | cons c t ih =>
    rcases List.prefix_cons_iff.1 h with rfl | ⟨rest, rfl, hrest⟩
    · exact List.nil_prefix
    · rw [bytes_cons] at hs
      have hc : c.utf8Size ≤ n := by omega
      rw [cut, if_pos hc]
      exact (List.prefix_cons_inj c).2 (ih hrest (by omega))

theorem longestWithin_cut (n : Nat) (t : Text) : LongestWithin n t (cut n t) where
  isPrefix := cut_isPrefix n t
  fits := bytes_cut_le n t
  longest := fun _ h hs => prefix_cut h hs

theorem bytes_clip_le {limit : Nat} (h : bytes marker ≤ limit) (t : Text) : bytes (clip limit t) ≤ limit := by
  unfold clip
  split
  · assumption
  · have := bytes_cut_le (limit - bytes marker) t
    rw [bytes_append]
    omega

theorem clip_eq_self {limit : Nat} {t : Text} (h : bytes t ≤ limit) : clip limit t = t := if_pos h

theorem clip_eq_cut {limit : Nat} {t : Text} (h : limit < bytes t) :
    clip limit t = cut (limit - bytes marker) t ++ marker := if_neg (Nat.not_le.2 h)

/-- what ends before the cut stands in the clip -/
theorem prefix_clip {limit : Nat} {s t : Text} (h : s <+: t) (hs : bytes s ≤ limit - bytes marker) : s <+: clip limit t := by
  unfold clip
  split
  · exact h
  · exact (prefix_cut h hs).trans (List.prefix_append _ _)

/-- what ends behind the cut, with a character that the marker does not have, stands in the clip only when nothing is cut
-/
theorem prefix_clip_iff {limit : Nat} {s t : Text} {c : Char} (h : s ++ [c] <+: t) (hc : c ∉ marker)
    (hlong : limit - bytes marker < bytes (s ++ [c])) : s ++ [c] <+: clip limit t ↔ bytes t ≤ limit := by
  constructor
  · intro hclip
    apply Classical.byContradiction
    intro hcut
    rw [clip_eq_cut (Nat.lt_of_not_le hcut)] at hclip
    have hbytes : bytes (s ++ [c]) ≤ bytes (cut (limit - bytes marker) t) :=
      bytes_le_of_prefix <| prefix_of_prefix_append hclip hc
    exact absurd (Nat.le_trans hbytes (bytes_cut_le _ t)) (Nat.not_le.2 hlong)
  · intro hfits
    rw [clip_eq_self hfits]
    exact h

theorem bytes_clip_le_bytes {limit : Nat} (h : bytes marker ≤ limit) (t : Text) : bytes (clip limit t) ≤ bytes t := by
  by_cases hfits : bytes t ≤ limit
  · exact Nat.le_of_eq (congrArg bytes (clip_eq_self hfits))
  · have := bytes_clip_le h t
    omega

/-- a clip has all bytes of the text only where nothing is cut -/
theorem bytes_clip_eq_iff {limit : Nat} (h : bytes marker ≤ limit) {t : Text} :
    bytes (clip limit t) = bytes t ↔ bytes t ≤ limit := by
  constructor
  · intro heq
    rw [← heq]
    exact bytes_clip_le h t
  · intro hfits
    rw [clip_eq_self hfits]

/-! ## Taking a text apart at a byte -/

/-- **A text comes apart at a byte exactly where a character starts or the text ends.** -/
theorem splitAt?_eq_some_iff {n : Nat} {t before behind : Text} :
    splitAt? n t = some (before, behind) ↔ t = before ++ behind ∧ before.bytes = n := by
  fun_induction splitAt? n t generalizing before with
  | case1 t =>
    constructor
    · rintro ⟨⟩
      exact ⟨rfl, rfl⟩
    · rintro ⟨rfl, hbytes⟩
      rw [eq_nil_of_bytes_eq_zero hbytes]
      rfl
  | case2 n =>
    constructor
    · rintro ⟨⟩
    · rintro ⟨heq, hbytes⟩
      rw [(List.append_eq_nil_iff.1 heq.symm).1] at hbytes
      cases hbytes
  | case3 n c t hfits ih =>
    rw [Option.map_eq_some_iff]
    constructor
    · rintro ⟨⟨before', behind'⟩, hsplit, heq⟩
      cases heq
      obtain ⟨rfl, hbytes⟩ := ih.1 hsplit
      refine ⟨rfl, ?_⟩
      rw [bytes_cons, hbytes]
      omega
    · rintro ⟨heq, hbytes⟩
      cases before with
      | nil => cases hbytes
      | cons c' before =>
        obtain ⟨rfl, rfl⟩ := List.cons_eq_cons.1 heq
        rw [bytes_cons] at hbytes
        exact ⟨(before, behind), ih.2 ⟨rfl, by omega⟩, rfl⟩
  | case4 n c t hlong =>
    constructor
    · rintro ⟨⟩
    · rintro ⟨heq, hbytes⟩
      cases before with
      | nil => cases hbytes
      | cons c' before =>
        obtain ⟨rfl, -⟩ := List.cons_eq_cons.1 heq
        rw [bytes_cons] at hbytes
        omega

/-- what stands before the byte at which a text comes apart is the cut there -/
theorem cut_of_splitAt? {n : Nat} {t before behind : Text} (h : splitAt? n t = some (before, behind)) :
    cut n t = before := by
  obtain ⟨heq, rfl⟩ := splitAt?_eq_some_iff.1 h
  have hprefix : before <+: cut before.bytes t := prefix_cut ⟨behind, heq.symm⟩ (Nat.le_refl _)
  have hle : before.bytes ≤ bytes (cut before.bytes t) := bytes_le_of_prefix hprefix
  exact (eq_of_prefix_of_bytes_eq hprefix (Nat.le_antisymm hle (bytes_cut_le _ t))).symm

theorem isBoundary_iff {t : Text} {n : Nat} : isBoundary t n = true ↔ bytes (cut n t) = n := by
  rw [isBoundary, Option.isSome_iff_exists]
  constructor
  · rintro ⟨⟨before, behind⟩, hsplit⟩
    rw [cut_of_splitAt? hsplit]
    exact (splitAt?_eq_some_iff.1 hsplit).2
  · intro h
    obtain ⟨behind, heq⟩ := cut_isPrefix n t
    exact ⟨(cut n t, behind), splitAt?_eq_some_iff.2 ⟨heq.symm, h⟩⟩

/-- inside a character, one byte less makes no difference to the cut -/
theorem cut_succ_of_not_isBoundary {t : Text} {n : Nat} (h : ¬ isBoundary t (n + 1) = true) :
    cut (n + 1) t = cut n t := by
  have hshort : bytes (cut (n + 1) t) ≤ n := by
    have hle := bytes_cut_le (n + 1) t
    have hne := mt isBoundary_iff.2 h
    omega
  calc cut (n + 1) t = cut n (cut (n + 1) t) := (cut_eq_self hshort).symm
    _ = cut n t := cut_cut (Nat.le_succ n) t

/-- **Cutting by positions gives the longest beginning that fits.** -/
theorem cutBack_eq (t : Text) (n : Nat) : cutBack t n = cut n t := by
  induction n with
  | zero => exact (cut_zero t).symm
  | succ n ih =>
    rw [cutBack]
    cases hsplit : splitAt? (n + 1) t with
    | some parts => exact (cut_of_splitAt? hsplit).symm
    | none =>
      have hinside : ¬ isBoundary t (n + 1) = true := by simp [isBoundary, hsplit]
      rw [cut_succ_of_not_isBoundary hinside]
      exact ih

/-- going back from a byte, the first place between characters is where the cut ends -/
theorem boundaryFrom?_eq (t : Text) (n : Nat) : boundaryFrom? t n = some (bytes (cut n t)) := by
  induction n with
  | zero =>
    have hzero : bytes (cut 0 t) = 0 := congrArg bytes (cut_zero t)
    rw [boundaryFrom?, if_pos (isBoundary_iff.2 hzero), hzero]
  | succ n ih =>
    rw [boundaryFrom?]
    by_cases h : isBoundary t (n + 1) = true
    · rw [if_pos h, isBoundary_iff.1 h]
    · rw [if_neg h, ih, cut_succ_of_not_isBoundary h]

/-- **Truncating by positions never fails, and clips.** -/
theorem truncate?_eq (limit : Nat) (t : Text) : truncate? limit t = some (clip limit t) := by
  unfold truncate? clip
  split
  · rfl
  · obtain ⟨behind, heq⟩ := cut_isPrefix (limit - bytes marker) t
    have hsplit : splitAt? (bytes (cut (limit - bytes marker) t)) t = some (cut (limit - bytes marker) t, behind) :=
      splitAt?_eq_some_iff.2 ⟨heq.symm, rfl⟩
    rw [boundaryFrom?_eq, Option.bind_eq_bind, Option.bind_some, hsplit]
    rfl

/-! ## Letters -/

theorem isAlpha_iff {c : Char} :
    c.isAlpha = true ↔ 65 ≤ c.toNat ∧ c.toNat ≤ 90 ∨ 97 ≤ c.toNat ∧ c.toNat ≤ 122 := by
  have halpha : c.isAlpha = (c.isUpper || c.isLower) := rfl
  have hupper : c.isUpper = decide (c.val ≥ 'A'.val ∧ c.val ≤ 'Z'.val) := rfl
  have hlower : c.isLower = (decide (c.val ≥ 'a'.val) && decide (c.val ≤ 'z'.val)) := rfl
  simp only [halpha, hupper, hlower, Bool.or_eq_true, Bool.and_eq_true, decide_eq_true_eq, ge_iff_le,
    UInt32.le_iff_toNat_le]
  rfl

/-! ## Texts without control characters -/

/-- no character is a control character -/
def ControlFree (t : Text) : Prop := ∀ c ∈ t, isControl c = false

-- given by name: with the finite types in scope, inference finds the test of every character instead
instance (t : Text) : Decidable t.ControlFree := List.decidableBAll (fun c => isControl c = false) t

theorem controlFree_cons {c : Char} {t : Text} : ControlFree (c :: t) ↔ isControl c = false ∧ ControlFree t :=
  List.forall_mem_cons

theorem controlFree_append {s t : Text} : ControlFree (s ++ t) ↔ ControlFree s ∧ ControlFree t :=
  List.forall_mem_append

theorem ControlFree.of_isPrefix {s t : Text} (ht : ControlFree t) (h : s <+: t) : ControlFree s :=
  fun c hc => ht c (h.subset hc)

theorem controlFree_marker : ControlFree marker := by decide

theorem ControlFree.clip {t : Text} (h : ControlFree t) (limit : Nat) : ControlFree (clip limit t) := by
  unfold Text.clip
  split
  · exact h
  · exact controlFree_append.2 ⟨h.of_isPrefix (cut_isPrefix _ t), controlFree_marker⟩

end FaultCodes.Text
