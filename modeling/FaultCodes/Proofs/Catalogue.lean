/-
The catalogue as a whole: what the seven tables have in common.

Every table lists `UNKNOWN` at the floor of its block, all but that of `other`, and then its specific names, in
alphabetical order and numbered downward from the code below the floor (`entries_table`, `ascending_specific`).
- `keyed_table`: no table lists a name twice, so every table is one that `ofEntries?` builds.
- `contains_of_mem_table`: every code lies in its table's block.
- `name_eq_iff_code_eq`: within a table the name says the code and the code says the name.
- `code_eq_floor_iff`: the floor belongs to `UNKNOWN` alone.
-/
import Mathlib.Data.List.Chain
import FaultCodes.Catalogue
import FaultCodes.Proofs.CodeTable

namespace FaultCodes.Catalogue

/-- the names of a table, `UNKNOWN` aside, in code order -/
def specific : Origin → List String
  | .builtin => builtinNames.tail
  | .driver => driverNames.tail
  | .framework => frameworkNames.tail
  | .application => applicationNames.tail
  | .dbLibrary => dbLibraryNames.tail
  | .toolkit => toolkitNames.tail
  | .other => otherNames

/-- how a table begins: with `UNKNOWN` at the floor, where it is declared -/
def heading (o : Origin) : List Entry :=
  if o = .other then [] else [(unknownKey, o.floor)]

theorem entries_table (o : Origin) :
    (table o).entries = heading o ++ numbered (o.floor - 1) (specific o) := by
  cases o <;> rfl

/-! ## Numbered lists -/

theorem numbered_names (first : Int32) (names : List String) :
    (numbered first names).map Prod.fst = names.map String.toList := by
  induction names generalizing first with
  | nil => rfl
  | cons n ns ih => simp only [numbered, List.map_cons, ih]

theorem toInt_pred {code : Int32} (h : -0x80000000 < code.toInt) : (code - 1).toInt = code.toInt - 1 := by
  have hlt := code.toInt_lt
  have h1 : (1 : Int32).toInt = 1 := by decide
  rw [Int32.toInt_sub, h1, Int.bmod_eq_of_le] <;> omega

/-- the codes run downward from the first, as long as the list stays within the words -/
theorem numbered_code_range {first : Int32} {names : List String} (room : -0x80000000 ≤ first.toInt - names.length)
    {e : Entry} (he : e ∈ numbered first names) :
    first.toInt - names.length < e.2.toInt ∧ e.2.toInt ≤ first.toInt := by
  induction names generalizing first with
  | nil => cases he
  | cons n ns ih =>
    simp only [List.length_cons, Int.natCast_add, Int.natCast_one] at room ⊢
    rcases List.mem_cons.1 he with rfl | he
    · constructor <;> simp only <;> omega
    · have hp : (first - 1).toInt = first.toInt - 1 := toInt_pred (by omega)
      have := ih (by omega) he
      omega

theorem numbered_descending {first : Int32} {names : List String}
    (room : -0x80000000 ≤ first.toInt - names.length) :
    (numbered first names).Pairwise fun a b => b.2.toInt < a.2.toInt := by
  induction names generalizing first with
  | nil => exact List.Pairwise.nil
  | cons n ns ih =>
    simp only [List.length_cons, Int.natCast_add, Int.natCast_one] at room
    have hp : (first - 1).toInt = first.toInt - 1 := toInt_pred (by omega)
    refine List.pairwise_cons.2 ⟨fun e he => ?_, ih (by omega)⟩
    have := (numbered_code_range (by omega) he).2
    simp only
    omega

/-! ## The specific names -/

/-- the bytes that a name is ordered by -/
def sortKey (name : String) : List UInt8 := name.toByteArray.data.toList

set_option maxRecDepth 4096 in
theorem ascending_specific (o : Origin) : ((specific o).map sortKey).IsChain (· < ·) := by
  cases o <;> decide +kernel

theorem unknown_not_mem_specific (o : Origin) : "UNKNOWN" ∉ specific o := by
  cases o <;> decide +kernel

theorem length_specific_le (o : Origin) : (specific o).length ≤ 999 := by
  cases o <;> decide +kernel

theorem nodup_specific (o : Origin) : (specific o).Nodup := by
  have h : ((specific o).map sortKey).Pairwise (· < ·) := (ascending_specific o).pairwise
  refine List.Nodup.of_map sortKey (h.imp ?_)
  intro a b hab he
  rw [he] at hab
  exact List.lt_irrefl b hab

/-! ## The tables -/

theorem mem_heading {o : Origin} {e : Entry} : e ∈ heading o ↔ o ≠ .other ∧ e = (unknownKey, o.floor) := by
  unfold heading
  split
  · next h => simp [h]
  · next h => simp [h]

/-- the codes of the specific names lie in the block, below the floor -/
theorem specific_code_range {o : Origin} {e : Entry} (he : e ∈ numbered (o.floor - 1) (specific o)) :
    o.floor.toInt - 999 ≤ e.2.toInt ∧ e.2.toInt < o.floor.toInt := by
  have hf : -31000 ≤ o.floor.toInt := by cases o <;> decide
  have hp : (o.floor - 1).toInt = o.floor.toInt - 1 := toInt_pred (by omega)
  have hl := length_specific_le o
  have hr := numbered_code_range (by omega) he
  omega

theorem specific_descending (o : Origin) :
    (numbered (o.floor - 1) (specific o)).Pairwise fun a b => b.2.toInt < a.2.toInt := by
  have hf : -31000 ≤ o.floor.toInt := by cases o <;> decide
  have hp : (o.floor - 1).toInt = o.floor.toInt - 1 := toInt_pred (by omega)
  have hl := length_specific_le o
  exact numbered_descending (by omega)

theorem unknownKey_not_mem_names (o : Origin) : unknownKey ∉ (specific o).map String.toList := by
  intro h
  obtain ⟨name, hm, he⟩ := List.mem_map.1 h
  exact unknown_not_mem_specific o (String.toList_inj.1 he ▸ hm)

/-- no table lists a name twice -/
theorem keyed_table (o : Origin) : CodeTable.Keyed (table o).entries := by
  have hs : ((specific o).map String.toList).Nodup :=
    (nodup_specific o).map fun _ _ => String.toList_inj.1
  rw [CodeTable.Keyed, entries_table, List.map_append, numbered_names]
  refine List.nodup_append'.2 ⟨?_, hs, ?_⟩
  · unfold heading
    split <;> simp
  · intro name hn hm
    obtain ⟨e, he, rfl⟩ := List.mem_map.1 hn
    rw [(mem_heading.1 he).2] at hm
    exact unknownKey_not_mem_names o hm

/-- Every table of the catalogue is one that `ofEntries?` builds. -/
theorem ofEntries?_table (o : Origin) : CodeTable.ofEntries? o (table o).entries = .ok (table o) := by
  refine CodeTable.ofEntries?_eq_ok_iff.2 ⟨keyed_table o, ?_⟩
  cases o <;> rfl

/-- every code lies in its table's block -/
theorem contains_of_mem_table {o : Origin} {e : Entry} (he : e ∈ (table o).entries) : o.contains e.2 = true := by
  rw [entries_table] at he
  rcases List.mem_append.1 he with he | he
  · rw [(mem_heading.1 he).2]
    exact o.contains_floor
  · have := specific_code_range he
    exact (o.contains_iff _).2 ⟨this.1, by omega⟩

/-- no table lists a code twice -/
theorem nodup_codes (o : Origin) : ((table o).entries.map Prod.snd).Nodup := by
  rw [List.Nodup, List.pairwise_map, entries_table, List.pairwise_append]
  refine ⟨?_, (specific_descending o).imp fun h he => by rw [he] at h; omega, fun a ha b hb he => ?_⟩
  · unfold heading
    split <;> simp
  · have := (specific_code_range hb).2
    rw [← he, (mem_heading.1 ha).2] at this
    simp only at this
    omega

/-- **Within a table the name says the code and the code says the name.** -/
theorem name_eq_iff_code_eq {o : Origin} {a b : Entry} (ha : a ∈ (table o).entries) (hb : b ∈ (table o).entries) :
    a.1 = b.1 ↔ a.2 = b.2 :=
  ⟨fun h => congrArg Prod.snd (List.inj_on_of_nodup_map (keyed_table o) ha hb h),
    fun h => congrArg Prod.fst (List.inj_on_of_nodup_map (nodup_codes o) ha hb h)⟩

/-- **The floor belongs to `UNKNOWN` alone.** -/
theorem code_eq_floor_iff {o : Origin} {e : Entry} (he : e ∈ (table o).entries) : e.2 = o.floor ↔ e.1 = unknownKey := by
  rw [entries_table] at he
  rcases List.mem_append.1 he with he | he
  · rw [(mem_heading.1 he).2]
    exact ⟨fun _ => rfl, fun _ => rfl⟩
  · have hlt := (specific_code_range he).2
    have hn : e.1 ∈ (specific o).map String.toList := numbered_names _ _ ▸ List.mem_map_of_mem he
    refine ⟨fun h => ?_, fun h => absurd (h ▸ hn) (unknownKey_not_mem_names o)⟩
    rw [h] at hlt
    omega

/-! ## Declared names -/

/-- the table of the origin lists the name with the code -/
def Declares (o : Origin) (name : Text) (code : Int32) : Prop := (name, code) ∈ (table o).entries

def Declared (o : Origin) (name : Text) : Prop := ∃ code, Declares o name code

theorem codeFor_table_eq_some {o : Origin} {name : Text} {c : ErrorCode} (h : (table o).codeFor name = some c) :
    c.origin = o ∧ Declares o name c.value := by
  obtain ⟨hl, ho⟩ := CodeTable.codeFor_eq_some_iff.1 h
  exact ⟨ho.trans (origin_table o), CodeTable.mem_of_lookup hl⟩

theorem codeFor_table_of_declares {o : Origin} {name : Text} {code : Int32} (h : Declares o name code) :
    (table o).codeFor name = some ⟨o, code, contains_of_mem_table h⟩ :=
  CodeTable.codeFor_eq_some_iff.2 ⟨(CodeTable.lookup_eq_some_iff (keyed_table o)).2 h, (origin_table o).symm⟩

theorem codeFor_table_eq_none_iff {o : Origin} {name : Text} :
    (table o).codeFor name = none ↔ ¬ Declared o name := by
  constructor
  · rintro hn ⟨code, hd⟩
    rw [codeFor_table_of_declares hd] at hn
    cases hn
  · intro hd
    cases hc : (table o).codeFor name with
    | none => rfl
    | some c => exact absurd ⟨c.value, (codeFor_table_eq_some hc).2⟩ hd

/-- Whether `UNKNOWN` is declared or not, the fallback of a table is the floor. -/
theorem fallback_table (o : Origin) : (table o).fallback = .unknown o := by
  rw [CodeTable.fallback, origin_table]
  cases hc : (table o).codeFor unknownKey with
  | none => rfl
  | some c =>
    obtain ⟨origin, value, inBlock⟩ := c
    obtain ⟨ho, hd⟩ := codeFor_table_eq_some hc
    simp only at ho hd
    have hv : value = o.floor := (code_eq_floor_iff hd).2 rfl
    subst ho hv
    rfl

end FaultCodes.Catalogue
