/-
Sanitized text: bounded, free of control characters, and left alone by a second pass.

The scan with a bound is compared with the replacement alone: with any room it puts out the cut of what the replacement
gives and stops exactly when that does not fit (`scan_eq`), so sanitizing is replacing and then clipping
(`sanitize_eq_clip`). What follows about sanitized text follows from the two halves.
- `presentable_sanitize`: whatever the text, the sanitized one is presentable.
- `sanitize_eq_self`: a presentable text is its own sanitized form.

`replaced` says the replacement once more, an escape sequence at a time: it has no state to carry, and drops a whole
sequence where the scan drops one character after the other.
- `sanitize_eq_two_passes`: sanitizing is replacing sequence by sequence, and cutting what is then too long.
-/
import FaultCodes.Sanitize
import FaultCodes.Proofs.Text

namespace FaultCodes

open Text

/-- may be handed to a remote caller: at most 512 bytes, and no control character -/
structure Presentable (t : Text) : Prop where
  fits : bytes t ≤ 512
  controlFree : ControlFree t

namespace Sanitize

/-! ## The replacement -/

theorem isControl_shown (c : Char) : isControl (shown c) = false := by
  unfold shown
  split
  · decide
  · next h => simpa using h

theorem controlFree_cleanFrom (escaped : Bool) (t : Text) : ControlFree (cleanFrom escaped t) := by
  induction t generalizing escaped with
  | nil => cases escaped <;> exact fun c hc => absurd hc List.not_mem_nil
  | cons c t ih =>
    cases escaped with
    | true => exact ih _
    | false => exact controlFree_cons.2 ⟨isControl_shown c, ih _⟩

/-- the escape character is a control character, so in a text without any the scan never escapes -/
theorem clean_append {s : Text} (h : ControlFree s) (t : Text) : clean (s ++ t) = s ++ clean t := by
  induction s with
  | nil => rfl
  | cons c s ih =>
    obtain ⟨hc, hs⟩ := controlFree_cons.1 h
    have hshown : shown c = c := by simp [shown, hc]
    have hescape : decide (c = escapeChar) = false := by
      refine decide_eq_false ?_
      rintro rfl
      exact absurd hc (by decide)
    rw [List.cons_append, clean, cleanFrom, hshown, hescape, ← clean, ih hs, List.cons_append]

theorem clean_eq_self {t : Text} (h : ControlFree t) : clean t = t :=
  calc clean t = clean (t ++ []) := by rw [List.append_nil]
    _ = t ++ clean [] := clean_append h []
    _ = t := List.append_nil t

/-! ## The scan with a bound -/

theorem scan_eq (escaped : Bool) (room : Nat) (t : Text) :
    scan escaped room t = ⟨cut room (cleanFrom escaped t), decide (room < bytes (cleanFrom escaped t))⟩ := by
  induction t generalizing escaped room with
  | nil => cases escaped <;> rfl
  | cons c t ih =>
    cases escaped with
    | true => exact ih _ room
    | false =>
      rw [scan, cleanFrom, cut, bytes_cons]
      by_cases hroom : (shown c).utf8Size ≤ room
      · have hfull (n : Nat) : decide (room - (shown c).utf8Size < n) = decide (room < (shown c).utf8Size + n) :=
          decide_eq_decide.2 (by omega)
        rw [if_pos hroom, if_pos hroom, ih, hfull]
      · have hfull (n : Nat) : decide (room < (shown c).utf8Size + n) = true := decide_eq_true (by omega)
        rw [if_neg hroom, if_neg hroom, hfull]

/-- **Sanitizing is replacing, then clipping.** -/
theorem sanitize_eq_clip (t : Text) : sanitize t = clip maxSanitized (clean t) := by
  have hroom : maxSanitized - bytes marker ≤ maxSanitized := Nat.sub_le _ _
  rw [sanitize, scan_eq, ← clean, cutBack_eq]
  unfold clip
  by_cases hfits : bytes (clean t) ≤ maxSanitized
  · simp only [Nat.not_lt.2 hfits, decide_false, Bool.false_eq_true, if_false, if_pos hfits, cut_eq_self hfits]
  · simp only [Nat.lt_of_not_le hfits, decide_true, if_true, if_neg hfits, cut_cut hroom]

/-- what stands in front, when it has no control character, takes no part in the replacement -/
theorem sanitize_append {s : Text} (h : ControlFree s) (t : Text) :
    sanitize (s ++ t) = clip maxSanitized (s ++ clean t) := by
  rw [sanitize_eq_clip, clean_append h]

end Sanitize

/-! ## Sanitized text -/

theorem presentable_sanitize (t : Text) : Presentable (sanitize t) := by
  rw [Sanitize.sanitize_eq_clip]
  exact ⟨bytes_clip_le (by decide) _, (Sanitize.controlFree_cleanFrom false t).clip _⟩

theorem sanitize_eq_self {t : Text} (h : Presentable t) : sanitize t = t := by
  rw [Sanitize.sanitize_eq_clip, Sanitize.clean_eq_self h.controlFree]
  exact if_pos h.fits

theorem sanitize_eq_self_iff (t : Text) : sanitize t = t ↔ Presentable t := by
  constructor
  · intro h
    rw [← h]
    exact presentable_sanitize t
  · exact sanitize_eq_self

/-! ## Two passes -/

namespace Sanitize

/-- what follows an escape sequence, given what follows its first character: all behind the next letter, and nothing
when there is no letter -/
def behindEscape (t : Text) : Text :=
  (t.dropWhile fun c => !c.isAlpha).drop 1

theorem behindEscape_isSuffix (t : Text) : behindEscape t <:+ t :=
  (List.drop_suffix 1 _).trans (List.dropWhile_suffix _)

theorem length_behindEscape_le (t : Text) : (behindEscape t).length ≤ t.length :=
  (behindEscape_isSuffix t).length_le

/-- of a text that is not empty, at least one character belongs to the sequence -/
theorem behindEscape_eq_self_iff {t : Text} : behindEscape t = t ↔ t = [] := by
  constructor
  · intro h
    have hlength := congrArg List.length h
    have hdrop := (List.dropWhile_suffix (fun c : Char => !c.isAlpha) (l := t)).length_le
    rw [behindEscape, List.length_drop] at hlength
    apply List.eq_nil_of_length_eq_zero
    omega
  · rintro rfl
    rfl

/-- every escape sequence replaced as a whole, every other control character by itself -/
def replaced : Text → Text
  | [] => []
  | c :: t =>
    if c = escapeChar then '?' :: replaced (behindEscape t)
    else if isControl c then '?' :: replaced t
    else c :: replaced t
termination_by t => t.length
decreasing_by
  · exact Nat.lt_succ_of_le (length_behindEscape_le t)
  · exact Nat.lt_succ_self _
  · exact Nat.lt_succ_self _

/-- inside an escape sequence the scan goes on to its end -/
theorem cleanFrom_escaped (t : Text) : cleanFrom true t = clean (behindEscape t) := by
  induction t with
  | nil => rfl
  | cons c t ih =>
    rw [cleanFrom, endsEscape, behindEscape, List.dropWhile_cons]
    cases c.isAlpha with
    | true => rfl
    | false => exact ih

/-- **One character at a time or one sequence at a time, the replacement is the same.** -/
theorem replaced_eq_clean (t : Text) : replaced t = clean t := by
  -- along `replaced`, because the text behind an escape sequence is shorter by more than one character
  fun_induction replaced t with
  | case1 => rfl
  | case2 t ih =>
    rw [clean, cleanFrom, ih, ← cleanFrom_escaped]
    rfl
  | case3 c t hescape hcontrol ih =>
    rw [clean, cleanFrom, decide_eq_false hescape, ← clean, ih, shown, if_pos hcontrol]
  | case4 c t hescape hcontrol ih =>
    rw [clean, cleanFrom, decide_eq_false hescape, ← clean, ih, shown, if_neg hcontrol]

end Sanitize

/-- **Sanitizing is two passes.** First every escape sequence and every other control character is replaced. What that
gives is the sanitized text when it has at most 512 bytes, and otherwise the longest beginning of it of at most 498
bytes is, with the marker behind it. -/
theorem sanitize_eq_two_passes (t : Text) :
    (bytes (Sanitize.replaced t) ≤ 512 → sanitize t = Sanitize.replaced t) ∧
    (512 < bytes (Sanitize.replaced t) →
      ∃ start, LongestWithin 498 (Sanitize.replaced t) start ∧ sanitize t = start ++ "...[TRUNCATED]") := by
  rw [Sanitize.sanitize_eq_clip, ← Sanitize.replaced_eq_clean]
  constructor
  · intro hfits
    exact if_pos hfits
  · intro hlong
    exact ⟨cut 498 (Sanitize.replaced t), longestWithin_cut 498 _, if_neg (Nat.not_le.2 hlong)⟩

end FaultCodes
