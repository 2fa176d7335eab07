/-
Decimal numerals: what they are made of, and that reading undoes printing.

Digits are read to the number that they denote, as long as it stays within the limit (`readDigits_eq`): each digit
leaves the number at least as large as it was, so no digit passes the limit when the last one does not.
- `controlFree_ofInt`, `word_ofInt`: a numeral has no control character and no white space.
- `bytes_ofInt_le`: a numeral of at most five digits has at most six bytes.
- `readInt32_ofInt`: the numeral of a 32-bit integer is read back as that integer.
- `readInt32_eq_ok_iff`: exactly the numerals that denote a 32-bit integer are read, and as what they denote.
-/
import FaultCodes.Text.Decimal
import FaultCodes.Proofs.Blank
import FaultCodes.Proofs.Outcome

namespace FaultCodes.Decimal

open Text

/-! ## Digits -/

theorem isDigit_iff {c : Char} : c.isDigit = true ↔ 48 ≤ c.toNat ∧ c.toNat ≤ 57 := by
  simp only [Char.isDigit, Bool.and_eq_true, decide_eq_true_eq, ge_iff_le, UInt32.le_iff_toNat_le]
  rfl

theorem isControl_of_isDigit {c : Char} (h : c.isDigit = true) : isControl c = false := by
  have := isDigit_iff.1 h
  simp only [isControl, Bool.or_eq_false_iff, Bool.and_eq_false_iff, decide_eq_false_iff_not]
  omega

theorem isDigit_of_mem_ofNat {n : Nat} {c : Char} (h : c ∈ ofNat n) : c.isDigit = true :=
  Nat.isDigit_of_mem_toDigits (by decide) (by decide) h

theorem exists_ofNat_eq_cons (n : Nat) : ∃ c t, ofNat n = c :: t ∧ c.isDigit = true := by
  obtain ⟨c, t, h⟩ := List.exists_cons_of_ne_nil (Nat.toDigits_ne_nil (n := n) (b := 10))
  exact ⟨c, t, h, isDigit_of_mem_ofNat (h ▸ List.mem_cons_self)⟩

theorem mem_ofInt {n : Int} {c : Char} (h : c ∈ ofInt n) : c = '-' ∨ c.isDigit = true := by
  unfold ofInt at h
  split at h
  · rcases List.mem_cons.1 h with rfl | h
    · exact .inl rfl
    · exact .inr (isDigit_of_mem_ofNat h)
  · exact .inr (isDigit_of_mem_ofNat h)

theorem controlFree_ofInt (n : Int) : ControlFree (ofInt n) := by
  have hdigits : ControlFree (ofNat n.natAbs) := fun c hc => isControl_of_isDigit (isDigit_of_mem_ofNat hc)
  unfold ofInt
  split
  · exact controlFree_cons.2 ⟨by decide, hdigits⟩
  · exact hdigits

theorem bytes_ofNat (n : Nat) : bytes (ofNat n) = (ofNat n).length := by
  have hbytes : ∀ t : Text, (∀ c ∈ t, c.isDigit = true) → bytes t = t.length := by
    intro t ht
    induction t with
    | nil => rfl
    | cons c t ih =>
      obtain ⟨hc, ht⟩ := List.forall_mem_cons.1 ht
      have hascii : c.val ≤ 127 := UInt32.le_iff_toNat_le.2 (Nat.le_trans (isDigit_iff.1 hc).2 (by decide))
      rw [bytes_cons, Char.utf8Size_eq_one_iff.2 hascii, ih ht, List.length_cons, Nat.add_comm]
  exact hbytes _ fun c hc => isDigit_of_mem_ofNat hc

/-- a numeral of at most five digits, with its sign -/
theorem bytes_ofInt_le {n : Int} (h : n.natAbs < 100000) : bytes (ofInt n) ≤ 6 := by
  have hdigits : bytes (ofNat n.natAbs) ≤ 5 := by
    rw [bytes_ofNat]
    exact (Nat.length_toDigits_le_iff (by decide) (by decide)).2 h
  unfold ofInt
  split
  · have hminus : '-'.utf8Size = 1 := rfl
    rw [bytes_cons, hminus]
    omega
  · omega

theorem word_ofInt (n : Int) : Word (ofInt n) := by
  have hminus : Word ['-'] := by decide
  have hdigits : Word (ofNat n.natAbs) := by
    refine ⟨Nat.toDigits_ne_nil, fun c hc => ?_⟩
    have := isDigit_iff.1 (isDigit_of_mem_ofNat hc)
    exact isBlank_of_visible (by omega) (by omega)
  unfold ofInt
  split
  · exact hminus.append hdigits
  · exact hdigits

/-! ## Reading -/

theorem le_ofDigitChars (t : Text) (value : Nat) : value ≤ Nat.ofDigitChars 10 t value := by
  induction t generalizing value with
  | nil => exact Nat.le_refl _
  | cons c t ih =>
    rw [Nat.ofDigitChars_cons]
    have := ih (10 * value + (c.toNat - '0'.toNat))
    omega

theorem readDigits_eq {limit : Nat} {t : Text} (ht : ∀ c ∈ t, c.isDigit = true) (beyond : IntegerProblem) {value : Nat}
    (hv : value ≤ limit) :
    readDigits limit beyond value t =
      if Nat.ofDigitChars 10 t value ≤ limit then .ok (Nat.ofDigitChars 10 t value) else .error beyond := by
  induction t generalizing value with
  | nil => rw [Nat.ofDigitChars_nil, if_pos hv, readDigits]
  | cons c t ih =>
    obtain ⟨hc, ht⟩ := List.forall_mem_cons.1 ht
    have hdigit : 10 * value + digit c = 10 * value + (c.toNat - '0'.toNat) := rfl
    rw [readDigits, hc, Bool.not_true, if_neg Bool.false_ne_true, Nat.ofDigitChars_cons, ← hdigit]
    by_cases hfits : 10 * value + digit c ≤ limit
    · rw [if_pos hfits, ih ht hfits]
    · have := le_ofDigitChars t (10 * value + digit c)
      rw [if_neg hfits, if_neg (by omega)]

/-- a number within the limit is read back -/
theorem readDigits_ofNat {limit n : Nat} (h : n ≤ limit) (beyond : IntegerProblem) :
    readDigits limit beyond 0 (ofNat n) = .ok n := by
  rw [readDigits_eq (fun c hc => isDigit_of_mem_ofNat hc) beyond (Nat.zero_le _), ofNat, Nat.ofDigitChars_ten_toDigits,
    if_pos h]

theorem readInt32_unsigned {c : Char} (hc : c.isDigit = true) (t : Text) :
    readInt32 (c :: t) = (readDigits 0x7FFFFFFF .tooLarge 0 (c :: t)).map fun n => Int32.ofInt n := by
  have hplus : c ≠ '+' := by
    rintro rfl
    exact absurd hc (by decide)
  have hminus : c ≠ '-' := by
    rintro rfl
    exact absurd hc (by decide)
  rw [readInt32] <;> simp [hplus, hminus]

theorem readInt32_negative {t : Text} (ht : t ≠ []) :
    readInt32 ('-' :: t) = (readDigits 0x80000000 .tooSmall 0 t).map fun n => Int32.ofInt (-n) := by
  obtain ⟨c, t, rfl⟩ := List.exists_cons_of_ne_nil ht
  rfl

/-- **Reading undoes printing.** -/
theorem readInt32_ofInt (v : Int32) : readInt32 (ofInt v.toInt) = .ok v := by
  have hlow := v.le_toInt
  have hhigh := v.toInt_lt
  obtain ⟨c, t, htext, hc⟩ := exists_ofNat_eq_cons v.toInt.natAbs
  unfold ofInt
  split
  · next hneg =>
    have hvalue : (-(v.toInt.natAbs : Int)) = v.toInt := by omega
    have hne : ofNat v.toInt.natAbs ≠ [] := by
      rw [htext]
      exact List.cons_ne_nil c t
    rw [readInt32_negative hne, readDigits_ofNat (by omega)]
    change Except.ok (Int32.ofInt (-(v.toInt.natAbs : Int))) = _
    rw [hvalue, Int32.ofInt_toInt]
  · next hpos =>
    have hvalue : (v.toInt.natAbs : Int) = v.toInt := by omega
    rw [htext, readInt32_unsigned hc, ← htext, readDigits_ofNat (by omega)]
    change Except.ok (Int32.ofInt (v.toInt.natAbs : Int)) = _
    rw [hvalue, Int32.ofInt_toInt]

/-! ## Which numerals are read -/

/-- digits and nothing else, at least one -/
structure Digits (t : Text) : Prop where
  nonempty : t ≠ []
  isDigit : ∀ c ∈ t, c.isDigit = true

/-- the decimal number that a text denotes: digits, with a sign in front of them or none -/
inductive Denotes : Text → Int → Prop where
  | unsigned {digits : Text} (h : Digits digits) : Denotes digits (Nat.ofDigitChars 10 digits 0)
  | plus {digits : Text} (h : Digits digits) : Denotes ('+' :: digits) (Nat.ofDigitChars 10 digits 0)
  | minus {digits : Text} (h : Digits digits) : Denotes ('-' :: digits) (-(Nat.ofDigitChars 10 digits 0 : Int))

theorem isDigit_of_readDigits {limit : Nat} {beyond : IntegerProblem} {value n : Nat} {t : Text}
    (h : readDigits limit beyond value t = .ok n) : ∀ c ∈ t, c.isDigit = true := by
  induction t generalizing value with
  | nil => exact fun c hc => absurd hc List.not_mem_nil
  | cons c t ih =>
    rw [readDigits] at h
    split at h
    · cases h
    · next hc =>
      split at h
      · exact List.forall_mem_cons.2 ⟨by simpa using hc, ih h⟩
      · cases h

theorem readDigits_eq_ok_iff {limit : Nat} {beyond : IntegerProblem} {t : Text} {n : Nat} :
    readDigits limit beyond 0 t = .ok n ↔
      (∀ c ∈ t, c.isDigit = true) ∧ Nat.ofDigitChars 10 t 0 = n ∧ n ≤ limit := by
  constructor
  · intro h
    have ht := isDigit_of_readDigits h
    rw [readDigits_eq ht beyond (Nat.zero_le _)] at h
    split at h
    · next hfits =>
      cases h
      exact ⟨ht, rfl, hfits⟩
    · cases h
  · rintro ⟨ht, rfl, hfits⟩
    rw [readDigits_eq ht beyond (Nat.zero_le _), if_pos hfits]

theorem readInt32_positive {t : Text} (ht : t ≠ []) :
    readInt32 ('+' :: t) = (readDigits 0x7FFFFFFF .tooLarge 0 t).map fun n => Int32.ofInt n := by
  obtain ⟨c, t, rfl⟩ := List.exists_cons_of_ne_nil ht
  rfl

/-- reading digits and making an integer of them -/
theorem readDigits_map_eq_ok_iff {limit : Nat} {beyond : IntegerProblem} {t : Text} {f : Int → Int32} {v : Int32} :
    ((readDigits limit beyond 0 t).map fun n => f n) = .ok v ↔
      (∀ c ∈ t, c.isDigit = true) ∧ Nat.ofDigitChars 10 t 0 ≤ limit ∧ f (Nat.ofDigitChars 10 t 0) = v := by
  constructor
  · intro h
    obtain ⟨n, hn, rfl⟩ := except_map_eq_ok_iff.1 h
    obtain ⟨m, hm, hcast⟩ := except_bind_eq_ok_iff.1 hn
    cases hcast
    obtain ⟨hdigits, rfl, hfits⟩ := readDigits_eq_ok_iff.1 hm
    exact ⟨hdigits, hfits, rfl⟩
  · rintro ⟨hdigits, hfits, rfl⟩
    rw [readDigits_eq_ok_iff.2 ⟨hdigits, rfl, hfits⟩]
    rfl

/-- **Which numerals are read.** A text is read as a 32-bit integer exactly when it denotes that integer. -/
theorem readInt32_eq_ok_iff {t : Text} {v : Int32} : readInt32 t = .ok v ↔ Denotes t v.toInt := by
  constructor
  · fun_cases readInt32 t with
    | case4 digits hne =>
      intro h
      obtain ⟨hdigits, hfits, rfl⟩ := readDigits_map_eq_ok_iff.1 h
      rw [Int32.toInt_ofInt_of_le (by omega) (by omega)]
      exact .minus ⟨hne, hdigits⟩
    | case5 digits hne =>
      intro h
      obtain ⟨hdigits, hfits, rfl⟩ := readDigits_map_eq_ok_iff.1 h
      rw [Int32.toInt_ofInt_of_le (by omega) (by omega)]
      exact .plus ⟨hne, hdigits⟩
    | case6 t hne =>
      intro h
      obtain ⟨hdigits, hfits, rfl⟩ := readDigits_map_eq_ok_iff.1 h
      rw [Int32.toInt_ofInt_of_le (by omega) (by omega)]
      exact .unsigned ⟨hne, hdigits⟩
    | _ => exact fun h => (nomatch h)
  · intro h
    have hlow := v.le_toInt
    have hhigh := v.toInt_lt
    generalize hv : v.toInt = n at h hlow hhigh
    cases h with
    | unsigned h =>
      obtain ⟨c, digits, rfl⟩ := List.exists_cons_of_ne_nil h.nonempty
      rw [readInt32_unsigned (h.isDigit c List.mem_cons_self)]
      exact readDigits_map_eq_ok_iff.2 ⟨h.isDigit, by omega, by rw [← hv, Int32.ofInt_toInt]⟩
    | plus h =>
      rw [readInt32_positive h.nonempty]
      exact readDigits_map_eq_ok_iff.2 ⟨h.isDigit, by omega, by rw [← hv, Int32.ofInt_toInt]⟩
    | minus h =>
      rw [readInt32_negative h.nonempty]
      exact readDigits_map_eq_ok_iff.2 ⟨h.isDigit, by omega, by rw [← hv, Int32.ofInt_toInt]⟩

end FaultCodes.Decimal
