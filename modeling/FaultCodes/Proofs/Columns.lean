/-
Column settings given as JSON: all of them reach the store, or none.

`ColumnStore.logged` is a store that writes down every question it is asked, with what came with it, and passes it on.
Reading takes a JSON value to records exactly when it is an array all of whose items can be read
(`readRecords_eq_ok_iff`); whatever is read has sound bounds (`sound_of_read`); and what cannot be read is refused as a
bad value, whose code does not depend on the words (`classify_badValue`).
- `setJson_all_or_nothing`: the store is asked once, for all the records in order, or it is not asked at all.
-/
import FaultCodes.Proofs.Record
import FaultCodes.Proofs.Fault
import FaultCodes.Proofs.Session

namespace FaultCodes

open FaultCodes.Record

/-! ## Sound bounds -/

/-- each bound is at most 20, and the lower one is not above the upper one when both are set -/
structure FracDigits.Sound (d : FracDigits) : Prop where
  min_le : ∀ low, d.min = some low → low ≤ 20
  max_le : ∀ high, d.max = some high → high ≤ 20
  ordered : ∀ low high, d.min = some low → d.max = some high → low ≤ high

namespace FracDigits

theorem boundProblem?_eq_none_iff (field : Text) (bound : Option UInt32) :
    boundProblem? field bound = Option.none ↔ ∀ n, bound = some n → n ≤ 20 := by
  cases bound with
  | none => simp [boundProblem?]
  | some n =>
    simp only [boundProblem?, Option.bind_some, ite_eq_right_iff, reduceCtorEq, imp_false, Option.some.injEq,
      forall_eq', UInt32.not_lt]
    rfl

theorem orderProblem?_eq_none_iff (min max : Option UInt32) :
    orderProblem? min max = Option.none ↔ ∀ low high, min = some low → max = some high → low ≤ high := by
  cases min with
  | none => simp [orderProblem?]
  | some low =>
    cases max with
    | none => simp [orderProblem?]
    | some high => simp [orderProblem?]

/-- Bounds are accepted, and kept as they are, when they are sound. -/
theorem new_eq_ok_iff {min max : Option UInt32} {d : FracDigits} :
    new min max = .ok d ↔ d = ⟨min, max⟩ ∧ Sound d := by
  have hrules : ((boundProblem? minField min).or (boundProblem? maxField max)).or (orderProblem? min max) =
      Option.none ↔ Sound ⟨min, max⟩ := by
    simp only [Option.or_eq_none_iff, boundProblem?_eq_none_iff, orderProblem?_eq_none_iff]
    exact ⟨fun h => ⟨h.1.1, h.1.2, h.2⟩, fun h => ⟨⟨h.min_le, h.max_le⟩, h.ordered⟩⟩
  unfold new
  dsimp only
  split
  · next problem h =>
    simp only [reduceCtorEq, false_iff]
    rintro ⟨rfl, hs⟩
    rw [hrules.2 hs] at h
    cases h
  · next h =>
    simp only [Except.ok.injEq]
    exact ⟨fun he => ⟨he.symm, he ▸ hrules.1 h⟩, fun he => he.1.symm⟩

theorem sound_of_readMembers {ms : Json.Members} {d : FracDigits} (h : readMembers ms = .ok d) : Sound d := by
  obtain ⟨bounds, -, hbounds⟩ := except_bind_eq_ok_iff.1 h
  unfold ofBounds at hbounds
  cases hnew : new bounds.1 bounds.2 with
  | error problem =>
    rw [hnew] at hbounds
    cases hbounds
  | ok d' =>
    rw [hnew] at hbounds
    cases hbounds
    exact (new_eq_ok_iff.1 hnew).2

end FracDigits

/-! ## Reading records -/

namespace ColumnSettings

/-- the fields of its own, whatever they are, leave the bounds to the inner record, and the bounds leave the fields alone -/
theorem eq_with_of_builds {g : FracDigits → ColumnSettings} (h : own.Builds g) (d d' : FracDigits) :
    g d' = { g d with fracDigits := d' } := by
  -- once for each field, and once for the function that takes them all
  repeat obtain ⟨_, _, h, rfl⟩ := h
  rfl

theorem fracDigits_of_builds {g : FracDigits → ColumnSettings} (h : own.Builds g) (d : FracDigits) :
    (g d).fracDigits = d := by
  rw [eq_with_of_builds h d d]

/-- every record that can be read has sound bounds -/
theorem sound_of_read {item : Json} {r : ColumnSettings} (h : shape.codec.read item = .ok r) : r.fracDigits.Sound := by
  cases item with
  | obj ms =>
    obtain ⟨g, hg, h⟩ := except_bind_eq_ok_iff.1 h
    obtain ⟨d, hd, h⟩ := except_bind_eq_ok_iff.1 h
    cases h
    rw [fracDigits_of_builds (Layout.builds_of_readMembers hg) d]
    exact FracDigits.sound_of_readMembers hd
  | _ => cases h

end ColumnSettings

namespace Columns

/-- the value is an array, and its items are these records, in order -/
def Reads (v : Json) (records : List ColumnSettings) : Prop :=
  ∃ items, v = .arr items ∧
    List.Forall₂ (fun item record => ColumnSettings.shape.codec.read item = .ok record) items records

theorem read_list_eq_ok_iff (v : Json) (records : List ColumnSettings) :
    (Codec.list ColumnSettings.shape.codec).read v = .ok records ↔ Reads v records := by
  cases v with
  | arr items =>
    refine (readItems_eq_ok_iff _ items records).trans ⟨fun h => ⟨items, rfl, h⟩, ?_⟩
    rintro ⟨_, ⟨⟩, h⟩
    exact h
  | _ =>
    constructor
    · rintro ⟨⟩
    · rintro ⟨_, ⟨⟩, _⟩

theorem readRecords_eq_ok_iff (v : Json) (records : List ColumnSettings) :
    readRecords v = .ok records ↔ Reads v records := by
  rw [← read_list_eq_ok_iff, readRecords]
  cases (Codec.list ColumnSettings.shape.codec).read v with
  | error problem => exact ⟨fun h => (nomatch h), fun h => (nomatch h)⟩
  | ok records' => exact ⟨fun h => congrArg Except.ok (Except.ok.inj h), fun h => congrArg Except.ok (Except.ok.inj h)⟩

/-- a value reads as one list of records only -/
theorem Reads.unique {v : Json} {records records' : List ColumnSettings} (h : Reads v records) (h' : Reads v records') :
    records = records' :=
  Except.ok.inj (((readRecords_eq_ok_iff v records).2 h).symm.trans ((readRecords_eq_ok_iff v records').2 h'))

/-- what cannot be read is refused as a bad value -/
theorem badValue_of_unread {v : Json} (h : ∀ records, ¬ Reads v records) :
    ∃ text, readRecords v = .error (.badValue text) := by
  cases hv : (Codec.list ColumnSettings.shape.codec).read v with
  | ok records => exact absurd ((read_list_eq_ok_iff v records).1 hv) (h records)
  | error problem => exact ⟨problem.message, by rw [readRecords, hv]; rfl⟩

theorem sound_of_reads {v : Json} {records : List ColumnSettings} (h : Reads v records) :
    ∀ r ∈ records, r.fracDigits.Sound := by
  obtain ⟨items, -, h⟩ := h
  induction h with
  | nil => exact fun r hr => absurd hr List.not_mem_nil
  | cons hread _ ih => exact List.forall_mem_cons.2 ⟨ColumnSettings.sound_of_read hread, ih⟩

end Columns

/-- a bad value has the built-in code declared for it, whatever it says -/
theorem classify_badValue (text : Text) :
    (Classifier.standard.classify (.badValue text)).value = -31057 ∧
      (Classifier.standard.classify (.badValue text)).resolution = .mapped := by
  change (Classification.ofOrigin (some .builtin) "ValueError").value = -31057 ∧
    (Classification.ofOrigin (some .builtin) "ValueError").resolution = .mapped
  decide +kernel

/-! ## A store that keeps a log -/

/-- a question to a column store, with what came with it -/
inductive ColumnQuestion where
  | list (database table : Int64)
  | get (database table attnum : Int64)
  | set (database : Int64) (records : List ColumnSettings)
  deriving DecidableEq

/-- a store's state with the questions so far -/
structure Logged (σ : Type) where
  state : σ
  asked : List ColumnQuestion

/-- writes a question down and passes it on -/
def logging {σ α : Type} (q : ColumnQuestion) (answer : Answer σ α) : Answer (Logged σ) α := fun l =>
  let (outcome, state) := answer.run l.state
  (outcome, ⟨state, l.asked ++ [q]⟩)

/-- the store with every question written down -/
def ColumnStore.logged {σ : Type} (s : ColumnStore σ) : ColumnStore (Logged σ) where
  list database table := logging (.list database table) (s.list database table)
  get database table attnum := logging (.get database table attnum) (s.get database table attnum)
  set database records := logging (.set database records) (s.set database records)

/-- a world with an empty log -/
def World.logged {σ : Type} (w : World σ) : World (Logged σ) :=
  ⟨⟨w.backing, []⟩, w.events⟩

def World.unlogged {σ : Type} (w : World (Logged σ)) : World σ :=
  ⟨w.backing.state, w.events⟩

namespace Columns

variable {σ : Type}

theorem setMethod_eq : setMethod = ("columns.metadata.set" : Text) := rfl

theorem outcome_set (s : ColumnStore σ) (database : Int64) (records : List ColumnSettings) (w : World σ) :
    (set s database records).outcome w =
      ((settle setMethod ((s.set database records).run w.backing).1).1,
        ⟨((s.set database records).run w.backing).2,
          w.events ++ (settle setMethod ((s.set database records).run w.backing).1).2⟩) := rfl

theorem outcome_set_logged (s : ColumnStore σ) (database : Int64) (records : List ColumnSettings) (w : World σ) :
    (set s.logged database records).outcome w.logged =
      (((set s database records).outcome w).1,
        ⟨⟨((set s database records).outcome w).2.backing, [.set database records]⟩,
          ((set s database records).outcome w).2.events⟩) := rfl

theorem setJson_of_reads {v : Json} {records : List ColumnSettings} (h : Reads v records) (s : ColumnStore σ)
    (database : Int64) : setJson s database v = set s database records :=
  setJson_of_read s database ((readRecords_eq_ok_iff v records).2 h)

theorem outcome_setJson_of_unread {v : Json} (h : ∀ records, ¬ Reads v records) :
    ∃ fault : Fault, fault.code = -31057 ∧ fault.classification.resolution = .mapped ∧
      fault.method? = some setMethod ∧ ∀ {τ : Type} (s : ColumnStore τ) (database : Int64) (w : World τ),
        (setJson s database v).outcome w = (.error fault, ⟨w.backing, w.events ++ [fault.log.event]⟩) := by
  obtain ⟨text, hrefused⟩ := badValue_of_unread h
  obtain ⟨hcode, hresolution⟩ := classify_badValue text
  refine ⟨.raise setMethod (.badValue text), ?_, ?_, Fault.method?_raise _ _,
    fun s database w => outcome_setJson_of_refused s database hrefused w⟩
  · rw [Fault.code, Fault.classification_raise, hcode]
  · rw [Fault.classification_raise, hresolution]

/-- **All or nothing.** The log of a store changes nothing that the call does. When the value is an array all of whose
items can be read, the store is asked once, to set these records in this order under this database, and the call
answers what the store answers, its failure turned into a fault. In every other case the store is not asked, its state
is left alone, and the call answers a fault with the code of a bad value under the method's name. Whatever the value,
the records that reach the store have sound bounds. -/
theorem setJson_all_or_nothing (s : ColumnStore σ) (database : Int64) (v : Json) (w : World σ) :
    let called := (setJson s.logged database v).outcome w.logged
    (setJson s database v).outcome w = (called.1, called.2.unlogged) ∧
    (∀ records, Reads v records →
      called.2.backing.asked = [.set database records] ∧
      called.2.backing.state = ((s.set database records).run w.backing).2 ∧
      (∀ done, ((s.set database records).run w.backing).1 = .ok done → called.1 = .ok done) ∧
      ∀ f, ((s.set database records).run w.backing).1 = .error f →
        called.1 = .error (.raise "columns.metadata.set" f)) ∧
    ((∀ records, ¬ Reads v records) →
      called.2.backing.asked = [] ∧ called.2.backing.state = w.backing ∧
      ∃ fault, called.1 = .error fault ∧ fault.code = -31057 ∧ fault.classification.resolution = .mapped ∧
        fault.method? = some ("columns.metadata.set" : Text)) ∧
    ∀ database' records, ColumnQuestion.set database' records ∈ called.2.backing.asked →
      ∀ r ∈ records, r.fracDigits.Sound := by
  intro called
  rw [← setMethod_eq]
  by_cases hv : ∃ records, Reads v records
  · obtain ⟨records, hreads⟩ := hv
    have hcalled : called = (set s.logged database records).outcome w.logged :=
      congrArg (fun call => call.outcome w.logged) (setJson_of_reads hreads s.logged database)
    rw [setJson_of_reads hreads, hcalled, outcome_set_logged, outcome_set]
    refine ⟨rfl, fun records' h => ?_, fun h => absurd hreads (h records), fun database' records' h => ?_⟩
    · obtain rfl := h.unique hreads
      refine ⟨rfl, rfl, fun done h => ?_, fun f h => ?_⟩
      · rw [h]
        rfl
      · rw [h]
        rfl
    · cases List.mem_singleton.1 h
      exact sound_of_reads hreads
  · have hnone : ∀ records, ¬ Reads v records := fun records h => hv ⟨records, h⟩
    obtain ⟨fault, hcode, hresolution, hmethod, hrefused⟩ := outcome_setJson_of_unread hnone
    have hcalled : called = (.error fault, ⟨⟨w.backing, []⟩, w.events ++ [fault.log.event]⟩) :=
      hrefused s.logged database w.logged
    rw [hrefused, hcalled]
    exact ⟨rfl, fun records h => absurd h (hnone records), fun _ => ⟨rfl, rfl, fault, rfl, hcode, hresolution, hmethod⟩,
      fun _ _ h => absurd h List.not_mem_nil⟩

end Columns

end FaultCodes
