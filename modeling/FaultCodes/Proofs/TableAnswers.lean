/-
What a code table answers, for any list of entries.

A table is built over a list in which no name is repeated; whether the codes lie in the block is another matter. The
entries collected by name (`index`) are what a look-up goes to: a later entry takes the place of an earlier one with its
name, so a repeated name shows in the number of entries that are left (`length_index`), and where no name is repeated
nothing is lost (`lookup_index_of_keyed`).
- `answers_exact`: look-up, typed look-up and fallback, each against membership in the list, and together with the
  acceptance test.
- `fallback_of_accepted`: in an accepted table the fallback is the floor, and belongs to no other name, exactly when the
  list starts with `UNKNOWN` at the floor, or starts below the floor and does not list it. The acceptance test does not
  ask for that: `floor_not_kept` has two lists that are accepted without it.
-/
import Mathlib.Data.List.Dedup
import FaultCodes.Proofs.Acceptance
import FaultCodes.Proofs.CodeTable

namespace FaultCodes.CodeTable

/-! ## Entries collected by name -/

/-- an entry in the place of the one with its name, or at the end -/
def collect : List Entry → Entry → List Entry
  | [], e => [e]
  | x :: xs, e => if x.1 = e.1 then e :: xs else x :: collect xs e

/-- the entries collected by name, one for each name -/
def index (entries : List Entry) : List Entry :=
  entries.foldl collect []

variable {entries found : List Entry} {e : Entry} {name : Text} {code : Int32}

theorem lookup_collect (found : List Entry) (e : Entry) (name : Text) :
    (collect found e).lookup name = if name = e.1 then some e.2 else found.lookup name := by
  induction found with
  | nil => exact lookup_cons_eq e [] name
  | cons x xs ih =>
    unfold collect
    by_cases hx : x.1 = e.1
    · rw [if_pos hx, lookup_cons_eq, lookup_cons_eq, hx]
      by_cases h : name = e.1 <;> simp [h]
    · rw [if_neg hx, lookup_cons_eq, lookup_cons_eq, ih]
      by_cases h : name = e.1
      · simp [h, Ne.symm hx]
      · simp [h]

/-- the last entry of a name is the one that stays -/
theorem lookup_index (entries : List Entry) (name : Text) : (index entries).lookup name = entries.reverse.lookup name := by
  unfold index
  rw [lookup_foldl lookup_collect]
  exact Option.or_none

theorem lookup_index_of_keyed (hk : Keyed entries) (name : Text) : (index entries).lookup name = entries.lookup name := by
  rw [lookup_index]
  exact lookup_perm hk entries.reverse_perm name

theorem names_collect (found : List Entry) (e : Entry) :
    (collect found e).map Prod.fst =
      if e.1 ∈ found.map Prod.fst then found.map Prod.fst else found.map Prod.fst ++ [e.1] := by
  induction found with
  | nil => rfl
  | cons x xs ih =>
    unfold collect
    by_cases hx : x.1 = e.1
    · simp [hx]
    · rw [if_neg hx, List.map_cons, List.map_cons, ih]
      by_cases h : e.1 ∈ xs.map Prod.fst
      · rw [if_pos h, if_pos (List.mem_cons_of_mem _ h)]
      · have hnot : e.1 ∉ x.1 :: xs.map Prod.fst := by
          rw [List.mem_cons, not_or]
          exact ⟨Ne.symm hx, h⟩
        rw [if_neg h, if_neg hnot]
        rfl

theorem keyed_collect (hk : Keyed found) (e : Entry) : Keyed (collect found e) := by
  unfold Keyed
  rw [names_collect]
  split
  · exact hk
  · next h => exact List.nodup_append_comm.1 (List.nodup_cons.2 ⟨h, hk⟩)

theorem mem_names_collect : name ∈ (collect found e).map Prod.fst ↔ name ∈ found.map Prod.fst ∨ name = e.1 := by
  rw [names_collect]
  split
  · next h =>
    constructor
    · exact Or.inl
    · rintro (hm | rfl)
      · exact hm
      · exact h
  · simp only [List.mem_append, List.mem_singleton]

theorem index_names (entries : List Entry) (hk : Keyed found) :
    Keyed (entries.foldl collect found) ∧
      ∀ name, name ∈ (entries.foldl collect found).map Prod.fst ↔
        name ∈ found.map Prod.fst ∨ name ∈ entries.map Prod.fst := by
  induction entries generalizing found with
  | nil => exact ⟨hk, fun name => by simp⟩
  | cons e es ih =>
    obtain ⟨hkeyed, hnames⟩ := ih (keyed_collect hk e)
    refine ⟨hkeyed, fun name => ?_⟩
    rw [List.foldl_cons, hnames, mem_names_collect, List.map_cons, List.mem_cons, or_assoc]

theorem distinctNames_eq_length_dedup (entries : List Entry) :
    distinctNames entries = (entries.map Prod.fst).dedup.length := by
  induction entries with
  | nil => rfl
  | cons e es ih =>
    unfold distinctNames
    rw [List.map_cons]
    by_cases h : es.any (·.1 = e.1) = true
    · rw [if_pos h, List.dedup_cons_of_mem ((any_name_iff es e.1).1 h), ih, Nat.zero_add]
    · rw [if_neg h, List.dedup_cons_of_notMem (mt (any_name_iff es e.1).2 h), List.length_cons, ih, Nat.add_comm]

/-- one entry is left for each name -/
theorem length_index (entries : List Entry) : (index entries).length = distinctNames entries := by
  have hnil : Keyed [] := List.nodup_nil
  obtain ⟨hkeyed, hnames⟩ := index_names entries hnil
  have hperm : ((index entries).map Prod.fst).Perm (entries.map Prod.fst).dedup := by
    apply (List.perm_ext_iff_of_nodup hkeyed (List.nodup_dedup _)).2
    intro name
    rw [List.mem_dedup]
    simpa using hnames name
  rw [distinctNames_eq_length_dedup, ← hperm.length_eq, List.length_map]

/-! ## When a table is refused -/

theorem not_keyed_iff (entries : List Entry) :
    ¬ Keyed entries ↔
      ∃ i j : Nat, i < j ∧ ∃ a b, entries[i]? = some a ∧ entries[j]? = some b ∧ a.1 = b.1 := by
  rw [Keyed, List.Nodup, List.pairwise_map, List.pairwise_iff_getElem]
  constructor
  · intro h
    simp only [not_forall, Classical.not_not] at h
    obtain ⟨i, j, hi, hj, hij, hname⟩ := h
    exact ⟨i, j, hij, _, _, List.getElem?_eq_getElem hi, List.getElem?_eq_getElem hj, hname⟩
  · rintro ⟨i, j, hij, a, b, ha, hb, hname⟩ h
    obtain ⟨hi, rfl⟩ := List.getElem?_eq_some_iff.1 ha
    obtain ⟨hj, rfl⟩ := List.getElem?_eq_some_iff.1 hb
    exact h i j hi hj hij hname

theorem ofEntries?_eq_error_iff {o : Origin} {refusal : RepeatedName} :
    ofEntries? o entries = .error refusal ↔ ¬ Keyed entries ∧ refusal = ⟨(index entries).length, entries.length⟩ := by
  rw [ofEntries?, length_index, ← distinctNames_eq_length_iff]
  split
  · next h => simp [h]
  · next h => simp [h, eq_comm]

/-! ## Typed look-ups and the fallback -/

variable {t : CodeTable} {c : ErrorCode}

theorem codeFor_eq_some_iff_mem (hk : Keyed t.entries) :
    t.codeFor name = some c ↔ (name, c.value) ∈ t.entries ∧ c.origin = t.origin := by
  rw [codeFor_eq_some_iff, lookup_eq_some_iff hk]

theorem codeFor_eq_none_iff (hk : Keyed t.entries) :
    t.codeFor name = none ↔ ∀ code, (name, code) ∈ t.entries → t.origin.contains code = false := by
  constructor
  · intro hnone code hm
    rw [← Bool.not_eq_true]
    intro hin
    have hsome : t.codeFor name = some ⟨t.origin, code, hin⟩ := (codeFor_eq_some_iff_mem hk).2 ⟨hm, rfl⟩
    rw [hnone] at hsome
    cases hsome
  · intro hout
    cases hc : t.codeFor name with
    | none => rfl
    | some c =>
      obtain ⟨hm, ho⟩ := (codeFor_eq_some_iff_mem hk).1 hc
      have hin := c.inBlock
      rw [ho, hout _ hm] at hin
      cases hin

theorem fallback_eq_of_codeFor (h : t.codeFor unknownKey = some c) : t.fallback = c := by
  rw [fallback, h]
  rfl

theorem fallback_eq_unknown (h : t.codeFor unknownKey = none) : t.fallback = .unknown t.origin := by
  rw [fallback, h]
  rfl

theorem origin_fallback (t : CodeTable) : t.fallback.origin = t.origin := by
  cases hc : t.codeFor unknownKey with
  | none => rw [fallback_eq_unknown hc, ErrorCode.unknown]
  | some c => rw [fallback_eq_of_codeFor hc, (codeFor_eq_some_iff.1 hc).2]

/-- where every code lies in the block, the typed look-up hides nothing -/
theorem codeFor_map_value (hin : ∀ e ∈ t.entries, t.origin.contains e.2 = true) (name : Text) :
    (t.codeFor name).map ErrorCode.value = t.lookup name := by
  cases hl : t.lookup name with
  | none =>
    rw [codeFor, hl]
    rfl
  | some code =>
    have hcontains : t.origin.contains code = true := hin (name, code) (mem_of_lookup hl)
    have hcode : t.codeFor name = some ⟨t.origin, code, hcontains⟩ := codeFor_eq_some_iff.2 ⟨hl, rfl⟩
    rw [hcode]
    rfl

/-- **What a table answers.** A list is refused exactly when two of its entries have one name, and then the refusal counts
the entries left when they are collected by name. In a table over any other list, whatever its codes: a look-up finds the
code of a name where the entries collected by name have it, which is where the list has it; the typed look-up gives this
code under the table's origin when the block holds it, and nothing otherwise; the fallback is the code listed for
`UNKNOWN` when the block holds it, and the floor otherwise; and whatever code these two give decodes to the table's
origin. If the list passes the acceptance test, the two look-ups agree on every name, and the entry in place `i` has the
first code less `i`. -/
theorem answers_exact (o : Origin) (entries : List Entry) :
    ((∃ refusal, ofEntries? o entries = .error refusal) ↔
      ∃ i j : Nat, i < j ∧ ∃ a b, entries[i]? = some a ∧ entries[j]? = some b ∧ a.1 = b.1) ∧
    (∀ refusal, ofEntries? o entries = .error refusal → refusal = ⟨(index entries).length, entries.length⟩) ∧
    ∀ t, ofEntries? o entries = .ok t →
      t.origin = o ∧
      (∀ name, t.lookup name = (index entries).lookup name) ∧
      (∀ name code, t.lookup name = some code ↔ (name, code) ∈ entries) ∧
      (∀ name c, t.codeFor name = some c ↔ (name, c.value) ∈ entries ∧ c.origin = o) ∧
      (∀ name, t.codeFor name = none ↔ ∀ code, (name, code) ∈ entries → o.contains code = false) ∧
      (∀ c, (unknownKey, c.value) ∈ entries → c.origin = o → t.fallback = c) ∧
      ((∀ code, (unknownKey, code) ∈ entries → o.contains code = false) → t.fallback = .unknown o) ∧
      (∀ c, (c = t.fallback ∨ ∃ name, t.codeFor name = some c) → Origin.ofCode? c.value = some t.origin) ∧
      (accepts o entries = true →
        (∀ name, (t.codeFor name).map ErrorCode.value = t.lookup name) ∧
        ∃ first, entries.head? = some first ∧ ∀ (i : Nat) e, entries[i]? = some e →
          ∃ c, t.codeFor e.1 = some c ∧ c.value.toInt = first.2.toInt - i) := by
  refine ⟨?_, fun refusal h => (ofEntries?_eq_error_iff.1 h).2, ?_⟩
  · rw [← not_keyed_iff]
    constructor
    · rintro ⟨refusal, h⟩
      exact (ofEntries?_eq_error_iff.1 h).1
    · intro h
      exact ⟨_, ofEntries?_eq_error_iff.2 ⟨h, rfl⟩⟩
  · intro t ht
    obtain ⟨hk, htable⟩ := ofEntries?_eq_ok_iff.1 ht
    obtain rfl : t.origin = o := congrArg CodeTable.origin htable
    obtain rfl : t.entries = entries := congrArg CodeTable.entries htable
    refine ⟨rfl, fun name => (lookup_index_of_keyed hk name).symm, fun name code => lookup_eq_some_iff hk,
      fun name c => codeFor_eq_some_iff_mem hk, fun name => codeFor_eq_none_iff hk, ?_, ?_, ?_, ?_⟩
    · intro c hm ho
      exact fallback_eq_of_codeFor ((codeFor_eq_some_iff_mem hk).2 ⟨hm, ho⟩)
    · intro hout
      exact fallback_eq_unknown ((codeFor_eq_none_iff hk).2 hout)
    · rintro c (rfl | ⟨name, hc⟩)
      · rw [ErrorCode.ofCode?_value, origin_fallback]
      · rw [ErrorCode.ofCode?_value, (codeFor_eq_some_iff.1 hc).2]
    · intro haccepts
      have hcontiguous : Contiguous t.origin t.entries := accepts_iff.1 haccepts
      refine ⟨codeFor_map_value fun e he => hcontiguous.contains he, ?_⟩
      obtain ⟨first, hfirst, hall⟩ := hcontiguous
      refine ⟨first, hfirst, fun i e he => ?_⟩
      obtain ⟨hin, hvalue⟩ := hall i e he
      exact ⟨⟨t.origin, e.2, hin⟩, (codeFor_eq_some_iff_mem hk).2 ⟨List.mem_of_getElem? he, rfl⟩, hvalue⟩

/-! ## The floor of an accepted table -/

/-- the list says which code the names have that it does not list -/
def DeclaresUnknown (entries : List Entry) : Prop := ∃ code, (unknownKey, code) ∈ entries

/-- the list gives its first name the floor -/
def StartsAtFloor (o : Origin) (entries : List Entry) : Prop := ∃ name, entries.head? = some (name, o.floor)

theorem fallback_eq_unknown_of_undeclared (hk : Keyed t.entries) (hm : ¬ DeclaresUnknown t.entries) :
    t.fallback = .unknown t.origin :=
  fallback_eq_unknown ((codeFor_eq_none_iff hk).2 fun code h => absurd ⟨code, h⟩ hm)

theorem isUnknown_fallback_iff (t : CodeTable) : t.fallback.isUnknown = true ↔ t.fallback.value = t.origin.floor := by
  rw [ErrorCode.isUnknown, decide_eq_true_iff, origin_fallback]

/-- only the first code can be the floor -/
theorem Contiguous.head?_of_floor {o : Origin} (h : Contiguous o entries) (he : e ∈ entries) (hfloor : e.2 = o.floor) :
    entries.head? = some e := by
  obtain ⟨first, hfirst, hall⟩ := h
  obtain ⟨i, hi⟩ := List.mem_iff_getElem?.1 he
  rw [List.head?_eq_getElem?] at hfirst ⊢
  have hhigh := ((o.contains_iff first.2).1 (hall 0 first hfirst).1).2
  have hvalue := (hall i e hi).2
  rw [hfloor] at hvalue
  obtain rfl : i = 0 := by omega
  exact hi

section Accepted

variable (hk : Keyed t.entries) (h : Contiguous t.origin t.entries)

include hk h

theorem fallback_value_of_declared (hm : (unknownKey, code) ∈ t.entries) : t.fallback.value = code := by
  have hin : t.origin.contains (unknownKey, code).2 = true := h.contains hm
  have hcode : t.codeFor unknownKey = some ⟨t.origin, code, hin⟩ := (codeFor_eq_some_iff_mem hk).2 ⟨hm, rfl⟩
  rw [fallback_eq_of_codeFor hcode]

theorem isUnknown_fallback_iff_of_contiguous :
    t.fallback.isUnknown = true ↔ (DeclaresUnknown t.entries → t.entries.head? = some (unknownKey, t.origin.floor)) := by
  rw [isUnknown_fallback_iff]
  constructor
  · rintro hfloor ⟨code, hm⟩
    obtain rfl := (fallback_value_of_declared hk h hm).symm.trans hfloor
    exact h.head?_of_floor hm rfl
  · intro hhead
    by_cases hd : DeclaresUnknown t.entries
    · exact fallback_value_of_declared hk h (List.mem_of_mem_head? (hhead hd))
    · rw [fallback_eq_unknown_of_undeclared hk hd, ErrorCode.unknown]

theorem fallback_unshared_iff_of_contiguous :
    (∀ e ∈ t.entries, e.1 ≠ unknownKey → e.2 ≠ t.fallback.value) ↔
      (StartsAtFloor t.origin t.entries → DeclaresUnknown t.entries) := by
  by_cases hd : DeclaresUnknown t.entries
  · refine iff_of_true (fun e he hname hshared => hname ?_) fun _ => hd
    obtain ⟨code, hm⟩ := hd
    rw [fallback_value_of_declared hk h hm] at hshared
    exact congrArg Prod.fst (List.inj_on_of_nodup_map h.nodup_codes he hm hshared)
  · have hvalue : t.fallback.value = t.origin.floor := by rw [fallback_eq_unknown_of_undeclared hk hd, ErrorCode.unknown]
    rw [hvalue]
    constructor
    · rintro hall ⟨name, hfirst⟩
      have hm : (name, t.origin.floor) ∈ t.entries := List.mem_of_mem_head? hfirst
      by_cases hname : name = unknownKey
      · subst hname
        exact ⟨_, hm⟩
      · exact absurd rfl (hall _ hm hname)
    · intro hstart e he _ hfloor
      apply hd
      apply hstart
      refine ⟨e.1, ?_⟩
      rw [← hfloor]
      exact h.head?_of_floor he hfloor

end Accepted

/-- **The fallback of an accepted table.** It is the code listed for `UNKNOWN`, and the floor where none is listed. So it
is the floor exactly when `UNKNOWN`, if it is listed at all, comes first and at the floor; and no other name has its code
exactly when the list, if it starts at the floor, lists `UNKNOWN`. Both hold for a list that starts with `UNKNOWN` at the
floor, for one that starts below the floor and does not list it, and for no other. -/
theorem fallback_of_accepted {o : Origin} {entries : List Entry} {t : CodeTable} (ht : ofEntries? o entries = .ok t)
    (haccepts : accepts o entries = true) :
    (∀ code, (unknownKey, code) ∈ entries → t.fallback.value = code) ∧
    (¬ DeclaresUnknown entries → t.fallback = .unknown o) ∧
    (t.fallback.isUnknown = true ↔ (DeclaresUnknown entries → entries.head? = some (unknownKey, o.floor))) ∧
    ((∀ e ∈ entries, e.1 ≠ unknownKey → e.2 ≠ t.fallback.value) ↔ (StartsAtFloor o entries → DeclaresUnknown entries)) ∧
    ((t.fallback.isUnknown = true ∧ ∀ e ∈ entries, e.1 ≠ unknownKey → e.2 ≠ t.fallback.value) ↔
      entries.head? = some (unknownKey, o.floor) ∨ ¬ DeclaresUnknown entries ∧ ¬ StartsAtFloor o entries) := by
  obtain ⟨hk, htable⟩ := ofEntries?_eq_ok_iff.1 ht
  obtain rfl : t.origin = o := congrArg CodeTable.origin htable
  obtain rfl : t.entries = entries := congrArg CodeTable.entries htable
  have hcontiguous : Contiguous t.origin t.entries := accepts_iff.1 haccepts
  have hfloor := isUnknown_fallback_iff_of_contiguous hk hcontiguous
  have hshared := fallback_unshared_iff_of_contiguous hk hcontiguous
  refine ⟨fun code hm => fallback_value_of_declared hk hcontiguous hm, fallback_eq_unknown_of_undeclared hk, hfloor,
    hshared, ?_⟩
  rw [hfloor, hshared]
  have hdeclares : t.entries.head? = some (unknownKey, t.origin.floor) → DeclaresUnknown t.entries := by
    intro hhead
    exact ⟨_, List.mem_of_mem_head? hhead⟩
  by_cases hd : DeclaresUnknown t.entries
  · simp [hd]
  · have hhead : t.entries.head? ≠ some (unknownKey, t.origin.floor) := mt hdeclares hd
    simp [hd, hhead]

/-- a list that starts with `UNKNOWN` at the floor -/
theorem fallback_of_accepted_toolkit :
    let entries : List Entry := [(unknownKey, -26000), (['A'], -26001)]
    let t : CodeTable := ⟨.toolkit, entries⟩
    ofEntries? .toolkit entries = .ok t ∧ accepts .toolkit entries = true ∧
      t.fallback.isUnknown = true ∧ ∀ e ∈ entries, e.1 ≠ unknownKey → e.2 ≠ t.fallback.value := by
  intro entries t
  have ht : ofEntries? .toolkit entries = .ok t := rfl
  have haccepts : accepts .toolkit entries = true := rfl
  obtain ⟨-, -, -, -, hboth⟩ := fallback_of_accepted ht haccepts
  exact ⟨ht, haccepts, hboth.2 (.inl rfl)⟩

/-- The acceptance test does not keep the floor for names that are not listed: it accepts a list that gives `UNKNOWN` a
code below the floor, which is then the fallback, and a list that gives the floor, and with it the fallback, to another
name. -/
theorem floor_not_kept :
    (let entries : List Entry := [(unknownKey, -26001), (['A'], -26002)]
      let t : CodeTable := ⟨.toolkit, entries⟩
      ofEntries? .toolkit entries = .ok t ∧ accepts .toolkit entries = true ∧ t.fallback.isUnknown = false) ∧
    (let entries : List Entry := [(['A'], -26000)]
      let t : CodeTable := ⟨.toolkit, entries⟩
      ofEntries? .toolkit entries = .ok t ∧ accepts .toolkit entries = true ∧ ['A'] ≠ unknownKey ∧
        t.lookup ['A'] = some t.fallback.value) :=
  ⟨⟨rfl, rfl, rfl⟩, ⟨rfl, rfl, by decide +kernel, rfl⟩⟩

end FaultCodes.CodeTable
