/-
Control sequences of terminals, and what sanitizing makes of them.

A control sequence is the escape character and a bracket, then parameters and intermediate characters, then one final
character, which may be a letter or a mark such as the tilde or the at sign. Sanitizing knows the end of an escape
sequence by a letter alone. Before the final character there is no letter, so a sequence that ends with a letter is
replaced as a whole and by itself. One that ends otherwise is taken to go on: what follows it is dropped up to the next
letter, and that letter too.
- `sanitize_controlSequence`: what is left of a text with a control sequence in it, and that nothing but the sequence is
  lost exactly when it ends with a letter or nothing follows.
- `text_lost_behind_tilde`: a key pressed on a terminal sends a sequence that ends with a tilde; the word behind it loses
  its first letter.
-/
import FaultCodes.Proofs.Sanitize

namespace FaultCodes

open Text

/-- a control sequence, by what stands between its bracket and its end -/
structure ControlSequence where
  parameters : Text
  intermediates : Text
  final : Char
  parameters_range : ∀ c ∈ parameters, 0x30 ≤ c.toNat ∧ c.toNat ≤ 0x3F
  intermediates_range : ∀ c ∈ intermediates, 0x20 ≤ c.toNat ∧ c.toNat ≤ 0x2F
  final_range : 0x40 ≤ final.toNat ∧ final.toNat ≤ 0x7E

namespace ControlSequence

/-- the part before the final character, without the escape character -/
def body (e : ControlSequence) : Text :=
  '[' :: (e.parameters ++ e.intermediates)

def text (e : ControlSequence) : Text :=
  escapeChar :: (e.body ++ [e.final])

theorem endsEscape_of_mem_body (e : ControlSequence) {c : Char} (h : c ∈ e.body) : Sanitize.endsEscape c = false := by
  have hrange : c = '[' ∨ 0x20 ≤ c.toNat ∧ c.toNat ≤ 0x3F := by
    rcases List.mem_cons.1 h with h | h
    · exact .inl h
    · rcases List.mem_append.1 h with h | h
      · have := e.parameters_range c h
        omega
      · have := e.intermediates_range c h
        omega
  rw [Sanitize.endsEscape, ← Bool.not_eq_true, isAlpha_iff]
  rcases hrange with rfl | hrange
  · decide
  · omega

end ControlSequence

namespace Sanitize

/-- the scan passes over the inside of an escape sequence -/
theorem cleanFrom_escaped_append {s : Text} (h : ∀ c ∈ s, endsEscape c = false) (t : Text) :
    cleanFrom true (s ++ t) = cleanFrom true t := by
  induction s with
  | nil => rfl
  | cons c s ih =>
    obtain ⟨hc, hs⟩ := List.forall_mem_cons.1 h
    rw [List.cons_append, cleanFrom, hc, Bool.not_false, ih hs]

/-- what is left of the text behind a control sequence -/
def leftBehind (e : ControlSequence) (t : Text) : Text :=
  if e.final.isAlpha then t else behindEscape t

theorem leftBehind_isSuffix (e : ControlSequence) (t : Text) : leftBehind e t <:+ t := by
  unfold leftBehind
  split
  · exact List.suffix_refl t
  · exact behindEscape_isSuffix t

theorem leftBehind_eq_self_iff {e : ControlSequence} {t : Text} :
    leftBehind e t = t ↔ e.final.isAlpha = true ∨ t = [] := by
  unfold leftBehind
  split
  · next h => simp only [h, true_or]
  · next h => simp only [behindEscape_eq_self_iff, h, false_or, Bool.false_eq_true]

/-- **A control sequence is replaced by one character**, and what is left behind it is looked at afresh. -/
theorem clean_controlSequence (e : ControlSequence) (t : Text) :
    clean (e.text ++ t) = '?' :: clean (leftBehind e t) := by
  have hbody : cleanFrom true (e.body ++ e.final :: t) = cleanFrom true (e.final :: t) :=
    cleanFrom_escaped_append (fun c hc => e.endsEscape_of_mem_body hc) _
  have hfinal : cleanFrom true (e.final :: t) = clean (leftBehind e t) := by
    rw [cleanFrom, endsEscape, leftBehind]
    cases e.final.isAlpha with
    | true => rfl
    | false => exact cleanFrom_escaped t
  calc clean (e.text ++ t) = '?' :: cleanFrom true (e.body ++ e.final :: t) := by
        rw [ControlSequence.text, List.cons_append, List.append_assoc]
        rfl
    _ = '?' :: clean (leftBehind e t) := by rw [hbody, hfinal]

end Sanitize

/-- **What is left of a text with a control sequence in it.** Between two texts without control characters that fit
together with a question mark, a control sequence becomes that question mark. The text behind it stays as it is when
the sequence ends with a letter, and otherwise loses everything up to its first letter, and that letter. So nothing but the
sequence is lost exactly when it ends with a letter, or there is no text behind it. -/
theorem sanitize_controlSequence (e : ControlSequence) {a b : Text} (ha : ControlFree a) (hb : ControlFree b)
    (hfits : bytes (a ++ "?" ++ b) ≤ 512) :
    sanitize (a ++ e.text ++ b) = a ++ "?" ++ Sanitize.leftBehind e b ∧
      (sanitize (a ++ e.text ++ b) = a ++ "?" ++ b ↔ e.final.isAlpha = true ∨ b = []) := by
  have hsuffix : Sanitize.leftBehind e b <:+ b := Sanitize.leftBehind_isSuffix e b
  have hleft : Sanitize.clean (Sanitize.leftBehind e b) = Sanitize.leftBehind e b :=
    Sanitize.clean_eq_self fun c hc => hb c (hsuffix.subset hc)
  have hclean : Sanitize.clean (a ++ e.text ++ b) = a ++ "?" ++ Sanitize.leftBehind e b := by
    rw [List.append_assoc, Sanitize.clean_append ha, Sanitize.clean_controlSequence, hleft, List.append_assoc]
    rfl
  have hbytes : bytes (a ++ "?" ++ Sanitize.leftBehind e b) ≤ 512 := by
    have hle := bytes_le_of_suffix hsuffix
    rw [bytes_append] at hfits ⊢
    omega
  have hsanitize : sanitize (a ++ e.text ++ b) = a ++ "?" ++ Sanitize.leftBehind e b := by
    rw [Sanitize.sanitize_eq_clip, hclean]
    exact if_pos hbytes
  refine ⟨hsanitize, ?_⟩
  rw [hsanitize, List.append_cancel_left_eq, Sanitize.leftBehind_eq_self_iff]

namespace ControlSequence

/-- the shape of the cursor set, by a sequence with an intermediate character -/
def cursorShape : ControlSequence :=
  ⟨['2'], [' '], 'q', List.forall_mem_singleton.2 (by decide), List.forall_mem_singleton.2 (by decide), by decide⟩

/-- what a terminal sends for the delete key -/
def deleteKey : ControlSequence :=
  ⟨['3'], [], '~', List.forall_mem_singleton.2 (by decide), List.forall_mem_nil _, by decide⟩

end ControlSequence

/-- a sequence that ends with a letter between two words -/
theorem sanitize_controlSequence_cursorShape :
    let e := ControlSequence.cursorShape
    (ControlFree ['x'] ∧ ControlFree ['y'] ∧ bytes (['x'] ++ "?" ++ ['y']) ≤ 512) ∧
      e.text = "\x1b[2 q" ∧ sanitize (['x'] ++ e.text ++ ['y']) = ['x'] ++ "?" ++ ['y'] := by
  intro e
  have hx : ControlFree ['x'] := by decide
  have hy : ControlFree ['y'] := by decide
  have hfits : bytes (['x'] ++ "?" ++ ['y']) ≤ 512 := by decide
  exact ⟨⟨hx, hy, hfits⟩, by decide, (sanitize_controlSequence e hx hy hfits).2.2 (.inl (by decide))⟩

/-- a sequence that ends with a tilde between two words: the second loses its first letter -/
theorem text_lost_behind_tilde :
    let e := ControlSequence.deleteKey
    e.text = "\x1b[3~" ∧ (ControlFree ['k'] ∧ ControlFree ['u', 'p'] ∧ bytes (['k'] ++ "?" ++ ['u', 'p']) ≤ 512) ∧
      sanitize (['k'] ++ e.text ++ ['u', 'p']) = ['k', '?', 'p'] ∧
      sanitize (['k'] ++ e.text ++ ['u', 'p']) ≠ ['k'] ++ "?" ++ ['u', 'p'] := by
  decide

end FaultCodes
