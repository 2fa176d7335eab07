/-
The acceptance test for a list of entries, in words of 32 bits.

For each entry the test puts the position into a word and takes it off the first code. The codes of a list may be any
words and a list may be of any length, so either step could leave the words. Neither does: a position beyond the first is
reached only when the codes before it were in the block and counted downward from the first one, so the first code is in
the block and the position is at most a thousand (`Reached`, kept from one entry to the next by `Reached.next`).
- `expected_eq_ok`: at such a position both steps stay within the words and give the exact difference.
- `exists_checkFrom_eq`: so the test answers from there on, and says whether the rest `RunsDown`.
- `accepts_exact`: the test answers for every list, what it accepts is said without it, and an accepted list has at most
  a thousand entries, whose codes fall from one to the next.
-/
import Mathlib.Data.List.Nodup
import FaultCodes.CodeTable
import FaultCodes.Proofs.Outcome

namespace FaultCodes.CodeTable

/-! ## One step in the words -/

theorem position_eq_ok {i : Nat} (hi : i < 0x80000000) : position i = .ok (Int32.ofNat i) := by
  unfold position
  rw [if_pos hi]

theorem difference_eq_ok {a b : Int32} (hlow : -0x80000000 ≤ a.toInt - b.toInt) (hhigh : a.toInt - b.toInt < 0x80000000) :
    difference a b = .ok (a - b) ∧ (a - b).toInt = a.toInt - b.toInt := by
  unfold difference
  rw [if_pos ⟨hlow, hhigh⟩]
  refine ⟨rfl, ?_⟩
  rw [Int32.toInt_sub]
  apply Int.bmod_eq_of_le <;> omega

/-- what is known of the first code when the test has come to position `i` -/
structure Reached (o : Origin) (first : Int32) (i : Nat) : Prop where
  le : i ≤ 1000
  inBlock : 0 < i → o.contains first = true

namespace Reached

variable {o : Origin} {first code : Int32} {i : Nat}

theorem start (o : Origin) (first : Int32) : Reached o first 0 :=
  ⟨Nat.zero_le _, fun h => absurd h (Nat.lt_irrefl 0)⟩

/-- a code of the block that is as far below the first as it should be lets the test go on -/
theorem next (h : Reached o first i) (hcode : o.contains code = true) (hstep : code.toInt = first.toInt - i) :
    Reached o first (i + 1) := by
  have hfirst : o.contains first = true := by
    rcases Nat.eq_zero_or_pos i with rfl | hpos
    · have heq : code = first := by
        apply Int32.toInt_inj.1
        omega
      rwa [← heq]
    · exact h.inBlock hpos
  have hlow := ((o.contains_iff code).1 hcode).1
  have hhigh := ((o.contains_iff first).1 hfirst).2
  exact ⟨by omega, fun _ => hfirst⟩

/-- the code expected at a position that is reached, computed without leaving the words -/
theorem expected_eq_ok (h : Reached o first i) :
    ∃ expected, (position i >>= difference first) = .ok expected ∧ expected.toInt = first.toInt - i := by
  have hle := h.le
  have hi : (Int32.ofNat i).toInt = i := Int32.toInt_ofNat_of_lt (by omega)
  have hroom : -0x80000000 ≤ first.toInt - i ∧ first.toInt - i < 0x80000000 := by
    have hlt := first.toInt_lt
    rcases Nat.eq_zero_or_pos i with rfl | hpos
    · have hge := first.le_toInt
      omega
    · have hlow := ((o.contains_iff first).1 (h.inBlock hpos)).1
      have hfloor : -31000 ≤ o.floor.toInt := by cases o <;> decide
      omega
  have hdifference := difference_eq_ok (a := first) (b := Int32.ofNat i) (by omega) (by omega)
  refine ⟨first - Int32.ofNat i, ?_, ?_⟩
  · rw [position_eq_ok (by omega)]
    exact hdifference.1
  · rw [hdifference.2, hi]

end Reached

/-! ## The run over a list -/

/-- the codes of these entries, the first of them in place `i`, lie in the block and count downward from `first` -/
def RunsDown (o : Origin) (first : Int32) (i : Nat) (es : List Entry) : Prop :=
  ∀ k e, es[k]? = some e → o.contains e.2 = true ∧ e.2.toInt = first.toInt - (i + k : Nat)

variable {o : Origin} {first : Int32}

theorem runsDown_cons {i : Nat} {e : Entry} {es : List Entry} :
    RunsDown o first i (e :: es) ↔
      (o.contains e.2 = true ∧ e.2.toInt = first.toInt - i) ∧ RunsDown o first (i + 1) es := by
  constructor
  · intro h
    refine ⟨h 0 e rfl, fun k e' he => ?_⟩
    have := h (k + 1) e' he
    rwa [Nat.add_right_comm i 1 k, Nat.add_assoc]
  · rintro ⟨hhead, htail⟩ k e' he
    cases k with
    | zero =>
      cases he
      exact hhead
    | succ k =>
      have := htail k e' he
      rwa [Nat.add_right_comm i 1 k, Nat.add_assoc] at this

theorem checkFrom_cons {i : Nat} {expected : Int32} (h : (position i >>= difference first) = .ok expected)
    (o : Origin) (e : Entry) (es : List Entry) :
    checkFrom o first i (e :: es) =
      if o.contains e.2 = true ∧ e.2 = expected then checkFrom o first (i + 1) es else .ok false := by
  obtain ⟨name, code⟩ := e
  obtain ⟨w, hw, hdifference⟩ := except_bind_eq_ok_iff.1 h
  rw [checkFrom, hw]
  change (if o.contains code = true then difference first w >>= _ else _) = _
  rw [hdifference, ite_and]
  rfl

/-- From a position that is reached the test answers, and the answer is whether the codes run down. -/
theorem exists_checkFrom_eq {i : Nat} (h : Reached o first i) (es : List Entry) :
    ∃ passed, checkFrom o first i es = .ok passed ∧ (passed = true ↔ RunsDown o first i es) := by
  induction es generalizing i with
  | nil => exact ⟨true, rfl, iff_of_true rfl fun _ _ he => absurd he (by simp)⟩
  | cons e es ih =>
    obtain ⟨expected, hexpected, hvalue⟩ := h.expected_eq_ok
    rw [checkFrom_cons hexpected, runsDown_cons, ← hvalue, Int32.toInt_inj]
    by_cases hhead : o.contains e.2 = true ∧ e.2 = expected
    · obtain ⟨hcode, rfl⟩ := hhead
      obtain ⟨passed, hpassed, hiff⟩ := ih (h.next hcode hvalue)
      rw [if_pos ⟨hcode, rfl⟩]
      exact ⟨passed, hpassed, hiff.trans (and_iff_right ⟨hcode, rfl⟩).symm⟩
    · rw [if_neg hhead]
      exact ⟨false, rfl, iff_of_false Bool.false_ne_true fun hall => hhead hall.1⟩

/-! ## What is accepted -/

/-- some entry, every code in the block, and the code in place `i` is the first less `i` -/
def Contiguous (o : Origin) (entries : List Entry) : Prop :=
  ∃ first, entries.head? = some first ∧
    ∀ (i : Nat) e, entries[i]? = some e → o.contains e.2 = true ∧ e.2.toInt = first.2.toInt - i

theorem exists_check_eq (o : Origin) (entries : List Entry) :
    ∃ passed, check o entries = .ok passed ∧ (passed = true ↔ Contiguous o entries) := by
  cases entries with
  | nil => exact ⟨false, rfl, by simp [Contiguous]⟩
  | cons first rest =>
    obtain ⟨passed, hpassed, hiff⟩ := exists_checkFrom_eq (Reached.start o first.2) (first :: rest)
    refine ⟨passed, hpassed, hiff.trans ?_⟩
    simp [Contiguous, RunsDown]

/-- the test never leaves the words -/
theorem check_eq_ok (o : Origin) (entries : List Entry) : check o entries = .ok (accepts o entries) := by
  obtain ⟨passed, hpassed, -⟩ := exists_check_eq o entries
  rw [accepts, hpassed]

theorem accepts_iff {o : Origin} {entries : List Entry} : accepts o entries = true ↔ Contiguous o entries := by
  obtain ⟨passed, hpassed, hiff⟩ := exists_check_eq o entries
  rw [check_eq_ok] at hpassed
  rwa [Except.ok.inj hpassed]

namespace Contiguous

variable {entries : List Entry}

theorem contains (h : Contiguous o entries) {e : Entry} (he : e ∈ entries) : o.contains e.2 = true := by
  obtain ⟨_, -, hall⟩ := h
  obtain ⟨i, hi⟩ := List.mem_iff_getElem?.1 he
  exact (hall i e hi).1

/-- the block holds a thousand codes, and each place has its own -/
theorem length_le (h : Contiguous o entries) : entries.length ≤ 1000 := by
  obtain ⟨first, hfirst, hall⟩ := h
  rcases Nat.eq_zero_or_pos entries.length with hzero | hpos
  · omega
  · have hlast := hall (entries.length - 1) _ (List.getElem?_eq_getElem (by omega))
    have hhead := hall 0 first (by rwa [← List.head?_eq_getElem?])
    have hlow := ((o.contains_iff _).1 hlast.1).1
    have hhigh := ((o.contains_iff _).1 hhead.1).2
    omega

theorem descending (h : Contiguous o entries) : (entries.map Prod.snd).Pairwise fun a b => b < a := by
  obtain ⟨first, -, hall⟩ := h
  rw [List.pairwise_map, List.pairwise_iff_getElem]
  intro i j hi hj hij
  have hearlier := (hall i _ (List.getElem?_eq_getElem hi)).2
  have hlater := (hall j _ (List.getElem?_eq_getElem hj)).2
  apply Int32.lt_iff_toInt_lt.2
  omega

theorem nodup_codes (h : Contiguous o entries) : (entries.map Prod.snd).Nodup := by
  apply h.descending.imp
  intro a b hlt heq
  rw [heq] at hlt
  exact Int32.lt_irrefl hlt

end Contiguous

/-- **The acceptance test is exact and stays within the words.** For every list it answers without an arithmetic step
that leaves 32 bits, and the answer is yes exactly when there is some entry, every code lies in the origin's block, and
the code in place `i` is the first one less `i`. What is accepted has at most a thousand entries, and its codes fall from
each to the next, so no two are the same. -/
theorem accepts_exact (o : Origin) (entries : List Entry) :
    check o entries = .ok (accepts o entries) ∧
    (accepts o entries = true ↔ Contiguous o entries) ∧
    (accepts o entries = true → entries.length ≤ 1000 ∧ (entries.map Prod.snd).Pairwise (fun a b => b < a) ∧
      (entries.map Prod.snd).Nodup) := by
  refine ⟨check_eq_ok o entries, accepts_iff, fun h => ?_⟩
  have hcontiguous := accepts_iff.1 h
  exact ⟨hcontiguous.length_le, hcontiguous.descending, hcontiguous.nodup_codes⟩

end FaultCodes.CodeTable
