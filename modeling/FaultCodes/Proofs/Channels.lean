/-
Who sees which text of a fault.

A failure's text and the values attached to its fault may be sensitive. The text goes into the message, and from there
to the caller; the values go into the log line only, but for the method, which goes into the event. So two faults that
agree in classification, source type and keys (`Alike`) look the same in every channel that shows neither a message nor
a value.
- `Alike.event_eq`: their events differ by the method at most.
- `Alike.display_eq`, `Alike.inspect_eq`, `Alike.wire_eq`: with equal messages they also have the same text for a reader,
  for an inspector and for the caller, whatever the values.
- `sensitive_text_in_channel`: this of the faults of two failures that differ in their texts, with values attached that
  differ; and that the inspection text of an error from outside leaves its message out.
-/
import FaultCodes.Fault.Wire
import FaultCodes.Proofs.Fault

namespace FaultCodes

namespace Fault

/-- the same to one who sees neither messages nor values of the metadata -/
structure Alike (a b : Fault) : Prop where
  classification : a.classification = b.classification
  sourceType : a.sourceType = b.sourceType
  keys : a.metadata.map Prod.fst = b.metadata.map Prod.fst

/-! ## Making a fault -/

theorem alike_ofFailure (k : Classifier) {f f' : Failure} (hpath : f.path = f'.path) (hhint : f.hint = f'.hint) :
    Alike (ofFailure k f) (ofFailure k f') where
  classification := by
    simp only [ofFailure, Classifier.classify, hpath, hhint]
  sourceType := by
    simp only [ofFailure, hpath]
  keys := rfl

/-- one more pair under the same key -/
theorem Alike.withMetadata {a b : Fault} (h : Alike a b) (key : Text) (value value' : Field) :
    Alike (a.withMetadata key value) (b.withMetadata key value') where
  classification := h.classification
  sourceType := h.sourceType
  keys := by
    simp only [Fault.withMetadata, List.map_append, h.keys, List.map_cons, List.map_nil]

/-- two chains of attachments under the same keys -/
theorem Alike.withAll {a b : Fault} (h : Alike a b) {pairs pairs' : Metadata}
    (hkeys : pairs.map Prod.fst = pairs'.map Prod.fst) : Alike (a.withAll pairs) (b.withAll pairs') := by
  induction pairs generalizing a b pairs' with
  | nil =>
    have hnil : pairs' = [] := by simpa using hkeys.symm
    subst hnil
    exact h
  | cons pair pairs ih =>
    cases pairs' with
    | nil => simp at hkeys
    | cons pair' pairs' =>
      obtain ⟨hkey, hrest⟩ : pair.1 = pair'.1 ∧ pairs.map Prod.fst = pairs'.map Prod.fst := by simpa using hkeys
      have hstep : Alike (a.withMetadata pair.1 pair.2) (b.withMetadata pair'.1 pair'.2) := by
        rw [hkey]
        exact h.withMetadata pair'.1 pair.2 pair'.2
      exact ih hstep hrest

/-! ## The channels -/

theorem Alike.code_eq {a b : Fault} (h : Alike a b) : a.code = b.code :=
  congrArg Classification.value h.classification

theorem Alike.event_eq {a b : Fault} (h : Alike a b) (hmethod : a.method? = b.method?) : a.log.event = b.log.event := by
  rw [Fault.event_eq, Fault.event_eq, h.code_eq, h.classification, h.sourceType, hmethod]

theorem Alike.display_eq {a b : Fault} (h : Alike a b) (hmessage : a.message = b.message) : a.display = b.display := by
  simp only [display, h.code_eq, hmessage]

theorem Alike.wire_eq {a b : Fault} (h : Alike a b) (hmessage : a.message = b.message) : a.wire = b.wire := by
  simp only [wire, toJson, h.code_eq, hmessage]

theorem inspect_eq (fault : Fault) : fault.inspect = Inspect.record "RpcFault"
    [("code", Decimal.ofInt fault.code.toInt), ("origin", fault.classification.origin.name),
      ("resolution", fault.classification.resolution.name), ("source_type", Text.quoted fault.sourceType),
      ("message", Text.quoted fault.message),
      ("metadata_keys", Inspect.list ((fault.metadata.map Prod.fst).map Text.quoted))] := by
  rw [List.map_map]
  rfl

theorem Alike.inspect_eq {a b : Fault} (h : Alike a b) (hmessage : a.message = b.message) : a.inspect = b.inspect := by
  rw [Fault.inspect_eq, Fault.inspect_eq, h.code_eq, h.classification, h.sourceType, h.keys, hmessage]

end Fault

/-- **Sensitive text stays in its channel.** Two failures of one type and with one hint, whatever their texts, give
faults that agree in code, origin, resolution and source type under every classifier, and in the keys of what is
attached to them when the chains of attachments have the same keys, whatever the values. Their events are equal when the
first values attached as the method are, or when there are none. When the texts of the failures are equal too, the
faults have the same text for a reader, for an inspector and for the caller. And two errors from outside that differ in
their messages only have the same inspection text. -/
theorem sensitive_text_in_channel (k : Classifier) (f f' : Failure) (hpath : f.path = f'.path) (hhint : f.hint = f'.hint)
    (pairs pairs' : Metadata) (hkeys : pairs.map Prod.fst = pairs'.map Prod.fst) (e e' : ForeignError)
    (hmodule : e.module = e'.module) (htype : e.typeName = e'.typeName) :
    let fault := (Fault.ofFailure k f).withAll pairs
    let fault' := (Fault.ofFailure k f').withAll pairs'
    (fault.code = fault'.code ∧ fault.classification.origin = fault'.classification.origin ∧
      fault.classification.resolution = fault'.classification.resolution ∧ fault.sourceType = fault'.sourceType ∧
      fault.metadata.map Prod.fst = fault'.metadata.map Prod.fst) ∧
    ((pairs.find? (·.1 = methodKey)).map (·.2.text) = (pairs'.find? (·.1 = methodKey)).map (·.2.text) →
      fault.log.event = fault'.log.event) ∧
    (f.text = f'.text →
      fault.display = fault'.display ∧ fault.inspect = fault'.inspect ∧ fault.wire = fault'.wire) ∧
    e.inspect = e'.inspect := by
  intro fault fault'
  have halike : Fault.Alike fault fault' := (Fault.alike_ofFailure k hpath hhint).withAll hkeys
  refine ⟨⟨halike.code_eq, ?_, ?_, halike.sourceType, halike.keys⟩, ?_, ?_, ?_⟩
  · rw [halike.classification]
  · rw [halike.classification]
  · intro hmethods
    apply halike.event_eq
    simp only [fault, fault', Fault.method?_withAll, hmethods]
  · intro htext
    have hmessage : fault.message = fault'.message := by
      simp only [fault, fault', Fault.message_withAll, hpath, htext]
    exact ⟨halike.display_eq hmessage, halike.inspect_eq hmessage, halike.wire_eq hmessage⟩
  · simp only [ForeignError.inspect, hmodule, htype]

/-- two rows of a table refused under one method, in different sessions -/
theorem sensitive_text_in_channel_of_rows :
    let e : ForeignError := ⟨"psycopg.errors", "UniqueViolation", ['1']⟩
    let e' : ForeignError := ⟨"psycopg.errors", "UniqueViolation", ['2']⟩
    let pairs : Metadata := [("method", .shared "tables.add"), ("session", .owned ['a'])]
    let pairs' : Metadata := [("method", .owned "tables.add"), ("session", .owned ['b'])]
    (e.failure.path = e'.failure.path ∧ e.failure.hint = e'.failure.hint ∧ pairs.map Prod.fst = pairs'.map Prod.fst ∧
      e.module = e'.module ∧ e.typeName = e'.typeName) ∧
    ((Fault.ofFailure .standard e.failure).withAll pairs).log.event =
      ((Fault.ofFailure .standard e'.failure).withAll pairs').log.event ∧
    ((Fault.ofFailure .standard e.failure).withAll pairs).inspect =
      ((Fault.ofFailure .standard e.failure).withAll pairs').inspect ∧
    e.inspect = e'.inspect := by
  intro e e' pairs pairs'
  have htwo := sensitive_text_in_channel .standard e.failure e'.failure rfl rfl pairs pairs' rfl e e' rfl rfl
  have hone := sensitive_text_in_channel .standard e.failure e.failure rfl rfl pairs pairs' rfl e e' rfl rfl
  exact ⟨⟨rfl, rfl, rfl, rfl, rfl⟩, htwo.2.1 (by decide +kernel), (hone.2.2.1 rfl).2.1, htwo.2.2.2⟩

end FaultCodes
