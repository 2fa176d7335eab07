/-
Written JSON text, read back.

- `content_escape`: one character is read back from what it is written as inside a string, a control character from the
  four digits of its code point included; so a string is read back from its text, whatever it says (`scan_string`).
- `scan_int`: an integer of 64 bits is read back from its numeral, when nothing follows that could go on a number.
- `parse_compact_obj`: so an object of strings and such integers is read back from its text (`ScansBack`, by induction over
  the members with the text behind them).
-/
import Mathlib.Data.List.Basic
import FaultCodes.Json.Document
import FaultCodes.Proofs.Decimal

namespace FaultCodes.Json

open Scalar

/-! ## Strings -/

theorem hexValue?_digitChar : ∀ d < 16, hexValue? (Nat.digitChar d) = some d := by decide

/-- below U+0020 two of the four digits are zero -/
theorem hex4_of_lt : ∀ n < 32, hex4 n = ['0', '0', Nat.digitChar (n / 16), Nat.digitChar (n % 16)] := by decide

theorem content_plain {c : Char} (hquote : c ≠ '"') (hback : c ≠ '\\') (hlow : ¬ c.toNat < 0x20) (t : Text) :
    content true .plain (c :: t) = push c (content true .plain t) := by
  rw [content, if_neg hquote, if_neg hback, if_neg hlow]

theorem content_shortEscape {c e : Char} (hu : c ≠ 'u') (he : shortEscape? c = some e) (t : Text) :
    content true .plain ('\\' :: c :: t) = push e (content true .plain t) := by
  rw [content, if_neg (by decide), if_pos rfl, content, if_neg hu, he]

theorem content_unit {n : Nat} (hn : n < 32) (t : Text) :
    content true .plain ('\\' :: 'u' :: (hex4 n ++ t)) = push (Char.ofNat n) (content true .plain t) := by
  have hhigh := hexValue?_digitChar (n / 16) (by omega)
  have hlow := hexValue?_digitChar (n % 16) (by omega)
  have hzero : hexValue? '0' = some 0 := by decide
  have hunit : 16 * (16 * (16 * (16 * 0 + 0) + 0) + n / 16) + n % 16 = n := by omega
  have hsurrogate : isLow n = false ∧ isHigh n = false := by
    simp only [isLow, isHigh, Bool.and_eq_false_iff, decide_eq_false_iff_not]
    omega
  have hroom : ¬ Text.bytes (['0', '0', Nat.digitChar (n / 16), Nat.digitChar (n % 16)] ++ t |>.take 4) < 4 := by
    have hsize := Char.utf8Size_pos
    simp only [List.cons_append, List.take_succ_cons, List.take_zero, Text.bytes_cons, Text.bytes_nil, Nat.not_lt]
    have := hsize '0'
    have := hsize (Nat.digitChar (n / 16))
    have := hsize (Nat.digitChar (n % 16))
    omega
  rw [hex4_of_lt n hn, content, if_neg (by decide), if_pos rfl, content, if_pos rfl, if_neg hroom]
  simp only [List.cons_append, List.nil_append, content, hzero, hhigh, hlow, hunit, hsurrogate.1, hsurrogate.2]
  rfl

/-- **A character is read back from what it is written as.** -/
theorem content_escape (c : Char) (t : Text) :
    content true .plain (escape c ++ t) = push c (content true .plain t) := by
  have hchar (d : Char) (h : c.toNat = d.toNat) : c = d := by
    rw [← Char.ofNat_toNat c, h, Char.ofNat_toNat]
  unfold escape
  split
  · next h =>
    subst h
    exact content_shortEscape (by decide) (by decide) t
  split
  · next h =>
    subst h
    exact content_shortEscape (by decide) (by decide) t
  split
  · next h => exact hchar '\x08' h ▸ content_shortEscape (by decide) (by decide) t
  split
  · next h => exact hchar '\x0c' h ▸ content_shortEscape (by decide) (by decide) t
  split
  · next h => exact h ▸ content_shortEscape (by decide) (by decide) t
  split
  · next h => exact h ▸ content_shortEscape (by decide) (by decide) t
  split
  · next h => exact h ▸ content_shortEscape (by decide) (by decide) t
  split
  · next hlow =>
    have hunit := content_unit hlow t
    rw [Char.ofNat_toNat] at hunit
    exact hunit
  · next hquote hback _ _ _ _ _ hlow => exact content_plain hquote hback hlow t

theorem content_flatMap_escape (s t : Text) : content true .plain (s.flatMap escape ++ '"' :: t) = .ok (s, t) := by
  induction s with
  | nil => rw [List.flatMap_nil, List.nil_append, content, if_pos rfl]
  | cons c s ih => rw [List.flatMap_cons, List.append_assoc, content_escape, ih, push]

theorem string_append (s t : Text) : string s ++ t = '"' :: (s.flatMap escape ++ '"' :: t) := by
  rw [string, List.cons_append, List.append_assoc]
  rfl

theorem string_flatMap_escape (s t : Text) :
    Scalar.string (s.flatMap escape ++ '"' :: t) = (⟨.ok (.str s), .ok ()⟩, some t) := by
  rw [Scalar.string, content_flatMap_escape]

/-- **A string is read back from its text.** -/
theorem scan_string (fuel : Nat) (s t : Text) :
    Document.scan (fuel + 1) (string s ++ t) = (.str ⟨.ok (.str s), .ok ()⟩, some t) := by
  have hspace : skipSpace (string s ++ t) = '"' :: (s.flatMap escape ++ '"' :: t) := by
    rw [string_append]
    exact List.dropWhile_cons_of_neg (by decide)
  rw [Document.scan, hspace]
  change (Document.str (Scalar.string _).1, (Scalar.string _).2) = _
  rw [string_flatMap_escape]

/-! ## Integers -/

/-- nothing that could go on a number stands first -/
def EndsNumber : Text → Prop
  | [] => True
  | c :: _ => c.isDigit = false ∧ c ≠ '.' ∧ c ≠ 'e' ∧ c ≠ 'E'

theorem natOf_ofNat (n : Nat) : natOf (Decimal.ofNat n) = n := by
  have hdigits : natOf (Decimal.ofNat n) = Nat.ofDigitChars 10 (Nat.toDigits 10 n) 0 := rfl
  rw [hdigits, Nat.ofDigitChars_ten_toDigits]

/-- a positive number does not start with a zero -/
theorem exists_ofNat_eq_nonzero {n : Nat} (hn : 0 < n) :
    ∃ c t, Decimal.ofNat n = c :: t ∧ c.isDigit = true ∧ c ≠ '0' := by
  induction n using Nat.strongRecOn with
  | ind n ih =>
    by_cases hsmall : n < 10
    · refine ⟨Nat.digitChar n, [], Nat.toDigits_of_lt_base hsmall, ?_, ?_⟩
      · rw [Nat.isDigit_digitChar, decide_eq_true hsmall]
      · have hdigits : ∀ d < 10, 0 < d → Nat.digitChar d ≠ '0' := by decide
        exact hdigits n hsmall hn
    · obtain ⟨c, t, htext, hc, hzero⟩ := ih (n / 10) (by omega) (by omega)
      refine ⟨c, t ++ [Nat.digitChar (n % 10)], ?_, hc, hzero⟩
      rw [Decimal.ofNat, Nat.toDigits_of_base_le (by decide) (by omega), ← Decimal.ofNat, htext, List.cons_append]

theorem unsignedNumber_of_nonzero {c : Char} (hc : c.isDigit = true) (hzero : c ≠ '0') (negative : Bool) (t : Text) :
    unsignedNumber negative (c :: t) = fraction ⟨negative, (c :: t).takeWhile Char.isDigit, none, none⟩
      ((c :: t).dropWhile Char.isDigit) := by
  rw [unsignedNumber, if_pos hc]
  exact hzero

section Number

variable {rest : Text} (hrest : EndsNumber rest)
include hrest

theorem takeWhile_ofNat_append (n : Nat) : (Decimal.ofNat n ++ rest).takeWhile Char.isDigit = Decimal.ofNat n := by
  have hstop : rest.takeWhile Char.isDigit = [] := by
    cases rest with
    | nil => rfl
    | cons c t => exact List.takeWhile_cons_of_neg (by simp [hrest.1])
  rw [List.takeWhile_append_of_pos fun c hc => Decimal.isDigit_of_mem_ofNat hc, hstop, List.append_nil]

theorem dropWhile_ofNat_append (n : Nat) : (Decimal.ofNat n ++ rest).dropWhile Char.isDigit = rest := by
  rw [List.dropWhile_append_of_pos fun c hc => Decimal.isDigit_of_mem_ofNat hc]
  cases rest with
  | nil => rfl
  | cons c t => exact List.dropWhile_cons_of_neg (by simp [hrest.1])

theorem fraction_of_endsNumber (l : Literal) : fraction l rest = (⟨l.value, .ok ()⟩, some rest) := by
  cases rest with
  | nil => rfl
  | cons c t =>
    obtain ⟨-, hpoint, hsmall, hbig⟩ := hrest
    have hexponent : exponent l (c :: t) = (⟨l.value, .ok ()⟩, some (c :: t)) := by
      change (if c = 'e' ∨ c = 'E' then _ else _) = _
      rw [if_neg (by simp [hsmall, hbig])]
    rw [← hexponent]
    unfold fraction
    split
    · next h => exact absurd (List.cons.inj h).1 hpoint
    · rfl

theorem unsignedNumber_ofNat (negative : Bool) (n : Nat) :
    unsignedNumber negative (Decimal.ofNat n ++ rest) =
      (⟨(Literal.mk negative (Decimal.ofNat n) none none).value, .ok ()⟩, some rest) := by
  rcases Nat.eq_zero_or_pos n with rfl | hn
  · -- a zero stands alone, and no digit follows it
    rw [← fraction_of_endsNumber hrest]
    cases rest with
    | nil => rfl
    | cons c t =>
      change (if c.isDigit then _ else _) = _
      rw [hrest.1]
      rfl
  · obtain ⟨c, t, htext, hc, hzero⟩ := exists_ofNat_eq_nonzero hn
    have hnumber := unsignedNumber_of_nonzero hc hzero negative (t ++ rest)
    rw [← List.cons_append, ← htext, takeWhile_ofNat_append hrest, dropWhile_ofNat_append hrest] at hnumber
    rw [hnumber, fraction_of_endsNumber hrest]

end Number

/-- an integer that has a place in JSON: one of 64 bits, signed or not -/
structure Fits (n : Int) : Prop where
  low : -0x8000000000000000 ≤ n
  high : n < 0x10000000000000000

theorem value_of_nonneg {n : Nat} (h : n < 0x10000000000000000) :
    (Literal.mk false (Decimal.ofNat n) none none).value = .ok (.int n) := by
  simp [Literal.value, natOf_ofNat, h]

theorem value_of_negative {n : Nat} (hpos : 0 < n) (h : n ≤ 0x8000000000000000) :
    (Literal.mk true (Decimal.ofNat n) none none).value = .ok (.int (-n)) := by
  have hne : n ≠ 0 := by omega
  simp [Literal.value, natOf_ofNat, h, hne]

theorem number_ofInt {n : Int} (hn : Fits n) {rest : Text} (hrest : EndsNumber rest) :
    number (Decimal.ofInt n ++ rest) = (⟨.ok (.int n), .ok ()⟩, some rest) := by
  obtain ⟨hlow, hhigh⟩ := hn
  unfold Decimal.ofInt
  split
  · next hneg =>
    have hvalue : (-(n.natAbs : Int)) = n := by omega
    change unsignedNumber true (Decimal.ofNat n.natAbs ++ rest) = _
    rw [unsignedNumber_ofNat hrest, value_of_negative (by omega) (by omega), hvalue]
  · next hpos =>
    have hvalue : (n.natAbs : Int) = n := by omega
    have hnumber : number (Decimal.ofNat n.natAbs ++ rest) = unsignedNumber false (Decimal.ofNat n.natAbs ++ rest) := by
      obtain ⟨c, t, htext, hc⟩ := Decimal.exists_ofNat_eq_cons n.natAbs
      rw [htext, List.cons_append]
      unfold number
      split
      · next h =>
        rw [(List.cons.inj h).1] at hc
        exact absurd hc (by decide)
      · rfl
    rw [hnumber, unsignedNumber_ofNat hrest, value_of_nonneg (by omega), hvalue]

/-- a numeral starts with a minus sign or a digit -/
theorem exists_ofInt_eq_cons (n : Int) : ∃ c t, Decimal.ofInt n = c :: t ∧ (c = '-' ∨ c.isDigit = true) := by
  unfold Decimal.ofInt
  split
  · exact ⟨'-', _, rfl, .inl rfl⟩
  · obtain ⟨c, t, htext, hc⟩ := Decimal.exists_ofNat_eq_cons n.natAbs
    exact ⟨c, t, htext, .inr hc⟩

/-- **An integer is read back from its numeral.** -/
theorem scan_int (fuel : Nat) {n : Int} (hn : Fits n) {rest : Text} (hrest : EndsNumber rest) :
    Document.scan (fuel + 1) (Decimal.ofInt n ++ rest) = (.scalar ⟨.ok (.int n), .ok ()⟩, some rest) := by
  obtain ⟨c, t, htext, hc⟩ := exists_ofInt_eq_cons n
  have hne {d : Char} (hminus : d ≠ '-') (hdigit : d.isDigit = false) : c ≠ d := by
    rintro rfl
    rcases hc with rfl | hc
    · exact hminus rfl
    · rw [hc] at hdigit
      cases hdigit
  have hspace : skipSpace (c :: (t ++ rest)) = c :: (t ++ rest) := by
    apply List.dropWhile_cons_of_neg
    have hblank : isSpace c = false := by
      simp only [isSpace, hne (d := ' ') (by decide) (by decide), hne (d := '\n') (by decide) (by decide),
        hne (d := '\t') (by decide) (by decide), hne (d := '\r') (by decide) (by decide), decide_false, Bool.or_false]
    rw [hblank]
    exact Bool.false_ne_true
  have hread : Scalar.read (c :: (t ++ rest)) = number (c :: (t ++ rest)) := by
    rw [Scalar.read, if_pos hc]
    · exact hne (by decide) (by decide)
    · exact hne (by decide) (by decide)
    · exact hne (by decide) (by decide)
  have hnumber := number_ofInt hn hrest
  rw [htext, List.cons_append] at hnumber ⊢
  rw [Document.scan, hspace]
  split
  · next h => exact absurd (List.cons.inj h).1 (hne (by decide) (by decide))
  · next h => exact absurd (List.cons.inj h).1 (hne (by decide) (by decide))
  · next h => cases h
  · next h => exact absurd (List.cons.inj h).1 (hne (by decide) (by decide))
  · next h => exact absurd (List.cons.inj h).1 (hne (by decide) (by decide))
  · rw [hread, hnumber]

/-! ## Objects -/

/-- the text of the value is scanned to a document that says the value, when nothing that could go on a number follows -/
def ScansBack (j : Json) : Prop :=
  ∀ (fuel : Nat) (rest : Text), EndsNumber rest →
    ∃ d, Document.scan (fuel + 1) (compact j ++ rest) = (d, some rest) ∧ ∀ depth, d.value depth = .ok j

theorem scansBack_str (s : Text) : ScansBack (.str s) :=
  fun fuel rest _ => ⟨_, scan_string fuel s rest, fun _ => rfl⟩

theorem scansBack_int {n : Int} (hn : Fits n) : ScansBack (.int n) :=
  fun fuel _ hrest => ⟨_, scan_int fuel hn hrest, fun _ => rfl⟩

theorem compactMembers_singleton (key : Text) (j : Json) :
    compactMembers [(key, j)] = string key ++ ':' :: compact j := by
  rw [compactMembers, List.append_assoc]
  rfl

theorem compactMembers_cons_cons (key : Text) (j : Json) (m : Text × Json) (ms : Members) :
    compactMembers ((key, j) :: m :: ms) = string key ++ ':' :: (compact j ++ ',' :: compactMembers (m :: ms)) := by
  rw [compactMembers, List.append_assoc, List.append_assoc, List.append_assoc]
  rfl

theorem compact_obj (ms : Members) : compact (.obj ms) = '\x7b' :: (compactMembers ms ++ ['\x7d']) := by
  rw [compact]
  rfl

/-- members start with the quote of their first key -/
theorem exists_compactMembers_eq_cons (m : Text × Json) (ms : Members) : ∃ t, compactMembers (m :: ms) = '"' :: t := by
  cases ms with
  | nil => exact ⟨_, by rw [compactMembers_singleton, string_append]⟩
  | cons m' ms => exact ⟨_, by rw [compactMembers_cons_cons, string_append]⟩

theorem length_le_compactMembers (ms : Members) : ms.length ≤ (compactMembers ms).length := by
  induction ms with
  | nil => exact Nat.zero_le _
  | cons m ms ih =>
    cases ms with
    | nil =>
      rw [compactMembers_singleton]
      simp only [List.length_cons, List.length_nil, List.length_append]
      omega
    | cons m' ms =>
      rw [compactMembers_cons_cons]
      simp only [List.length_cons, List.length_append] at ih ⊢
      omega

/-- a member whose value is read back, with what is scanned behind it -/
theorem scanEntry_member {j : Json} (hj : ScansBack j) (fuel : Nat) (key : Text) {rest : Text} (hrest : EndsNumber rest) :
    ∃ d, (∀ depth, d.value depth = .ok j) ∧
      Document.scanEntry (fuel + 2) (string key ++ ':' :: (compact j ++ rest)) =
        (.entry ⟨.ok (.str key), .ok ()⟩ d (Document.scanEntries (fuel + 1) false rest).1,
          (Document.scanEntries (fuel + 1) false rest).2) := by
  obtain ⟨d, hscan, hvalue⟩ := hj fuel rest hrest
  have hcolon : skipSpace (':' :: (compact j ++ rest)) = ':' :: (compact j ++ rest) :=
    List.dropWhile_cons_of_neg (by decide)
  refine ⟨d, hvalue, ?_⟩
  rw [string_append]
  simp only [Document.scanEntry, string_flatMap_escape, hcolon, hscan]

theorem endsNumber_comma (t : Text) : EndsNumber (',' :: t) := by
  refine ⟨?_, ?_, ?_, ?_⟩ <;> decide

theorem endsNumber_brace (t : Text) : EndsNumber ('\x7d' :: t) := by
  refine ⟨?_, ?_, ?_, ?_⟩ <;> decide

theorem scanEntries_brace (fuel : Nat) (first : Bool) (t : Text) :
    Document.scanEntries (fuel + 1) first ('\x7d' :: t) = (.stop none, some t) := rfl

theorem scanEntries_first (fuel : Nat) (m : Text × Json) (ms : Members) (t : Text) :
    Document.scanEntries (fuel + 1) true (compactMembers (m :: ms) ++ t) =
      Document.scanEntry fuel (compactMembers (m :: ms) ++ t) := by
  obtain ⟨u, hu⟩ := exists_compactMembers_eq_cons m ms
  rw [hu]
  rfl

theorem scanEntries_comma (fuel : Nat) (m : Text × Json) (ms : Members) (t : Text) :
    Document.scanEntries (fuel + 1) false (',' :: (compactMembers (m :: ms) ++ t)) =
      Document.scanEntry fuel (compactMembers (m :: ms) ++ t) := by
  obtain ⟨u, hu⟩ := exists_compactMembers_eq_cons m ms
  rw [hu]
  rfl

/-- what is read of a member comes on top of the members before it -/
theorem members_entry {d : Document} {j : Json} (hd : ∀ depth, d.value depth = .ok j) (key : Text) (rest : Entries)
    (depth : Nat) (before : Members) :
    (Entries.entry ⟨.ok (.str key), .ok ()⟩ d rest).members depth before =
      rest.members depth (insert key j before) := by
  rw [Entries.members]
  dsimp only
  rw [hd]
  rfl

/-- members put on top of those before them, one after the other -/
def insertAll (before ms : Members) : Members :=
  ms.foldl (fun sorted (key, value) => insert key value sorted) before

/-- **Members are read back from their text, one after the other.** -/
theorem scanEntry_members (key : Text) {j : Json} {ms : Members} (hj : ScansBack j) (hms : ∀ m ∈ ms, ScansBack m.2)
    {fuel : Nat} (hfuel : 2 * ms.length + 2 ≤ fuel) (rest : Text) :
    ∃ entries, Document.scanEntry fuel (compactMembers ((key, j) :: ms) ++ '\x7d' :: rest) = (entries, some rest) ∧
      ∀ depth before, entries.members depth before = .ok (insertAll before ((key, j) :: ms)) := by
  induction ms generalizing key j fuel with
  | nil =>
    obtain ⟨fuel, rfl⟩ := Nat.exists_eq_add_of_le' (show 2 ≤ fuel by omega)
    obtain ⟨d, hvalue, hscan⟩ := scanEntry_member hj fuel key (endsNumber_brace rest)
    refine ⟨.entry ⟨.ok (.str key), .ok ()⟩ d (.stop none), ?_, ?_⟩
    · rw [compactMembers_singleton, List.append_assoc, List.cons_append, hscan, scanEntries_brace]
    · intro depth before
      rw [members_entry hvalue]
      rfl
  | cons m ms ih =>
    obtain ⟨key', j'⟩ := m
    obtain ⟨hj', hms'⟩ := List.forall_mem_cons.1 hms
    rw [List.length_cons] at hfuel
    obtain ⟨fuel, rfl⟩ := Nat.exists_eq_add_of_le' (show 2 ≤ fuel by omega)
    obtain ⟨d, hvalue, hscan⟩ := scanEntry_member hj fuel key
      (endsNumber_comma (compactMembers ((key', j') :: ms) ++ '\x7d' :: rest))
    obtain ⟨entries, hentries, hmembers⟩ := ih key' hj' hms' (show 2 * ms.length + 2 ≤ fuel by omega)
    refine ⟨.entry ⟨.ok (.str key), .ok ()⟩ d entries, ?_, ?_⟩
    · rw [scanEntries_comma, hentries] at hscan
      rw [compactMembers_cons_cons, ← hscan]
      simp only [List.append_assoc, List.cons_append]
    · intro depth before
      rw [members_entry hvalue, hmembers]
      rfl

theorem scan_brace (fuel : Nat) (t : Text) :
    Document.scan (fuel + 1) ('\x7b' :: t) =
      (.obj (Document.scanEntries fuel true t).1, (Document.scanEntries fuel true t).2) := rfl

theorem scan_compact_obj {ms : Members} (hms : ∀ m ∈ ms, ScansBack m.2) {fuel : Nat} (hfuel : 2 * ms.length + 2 ≤ fuel)
    (rest : Text) :
    ∃ entries, Document.scan fuel (compact (.obj ms) ++ rest) = (.obj entries, some rest) ∧
      ∀ depth, entries.members depth [] = .ok (sortMembers ms) := by
  obtain ⟨fuel, rfl⟩ := Nat.exists_eq_add_of_le' (show 2 ≤ fuel by omega)
  rw [compact_obj, List.cons_append, List.append_assoc, List.singleton_append, scan_brace]
  cases ms with
  | nil => exact ⟨.stop none, rfl, fun _ => rfl⟩
  | cons m ms =>
    obtain ⟨key, j⟩ := m
    obtain ⟨hj, hms⟩ := List.forall_mem_cons.1 hms
    rw [List.length_cons] at hfuel
    obtain ⟨entries, hentries, hmembers⟩ :=
      scanEntry_members key hj hms (show 2 * ms.length + 2 ≤ fuel by omega) rest
    refine ⟨entries, ?_, fun depth => hmembers depth []⟩
    rw [scanEntries_first, hentries]

/-- **An object is read back from its text**, with its members in key order, when the text of each of its values is. -/
theorem parse_compact_obj {ms : Members} (hms : ∀ m ∈ ms, ScansBack m.2) :
    parse (compact (.obj ms)) = .ok (object ms) := by
  have hlength := length_le_compactMembers ms
  have hfuel : 2 * ms.length + 2 ≤ 3 * (compact (.obj ms)).length + 3 := by
    rw [compact_obj, List.length_cons]
    simp only [List.length_append]
    omega
  obtain ⟨entries, hscan, hmembers⟩ := scan_compact_obj hms hfuel []
  rw [List.append_nil] at hscan
  have hvalue : (Document.obj entries).value nestingLimit = .ok (object ms) := by
    rw [Document.value, if_neg (by decide), hmembers]
    rfl
  rw [parse, Document.ofText, hscan]
  dsimp only
  rw [hvalue]
  rfl

end FaultCodes.Json
