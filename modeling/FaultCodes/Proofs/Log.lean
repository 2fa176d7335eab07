/-
Log lines: which of them are one line.

Everything that the record itself writes is free of control characters, and so is the message of a fault, which is
sanitized. The source type, the keys and the values of the metadata go into the line as they are, but for the clip.
- `LogRecord.controlFree_line_iff`: a line is free of control characters exactly when each of its clipped fields is.
- `Fault.controlFree_line_iff_fields`: the line of a fault is free of them exactly when the clipped source type, the
  keys and the clipped values are; the text of the failure has no part in it.
- `log_line_broken_by_type_and_value`: a line break in a type name, or in a metadata value, breaks the line.
-/
import FaultCodes.Proofs.Decimal
import FaultCodes.Proofs.Fault

namespace FaultCodes

open Text

namespace LogRecord

theorem controlFree_pairWith_iff (shown : Text → Text) (pair : Text × Field) :
    ControlFree (pairWith shown pair) ↔ ControlFree pair.1 ∧ ControlFree (shown pair.2.text) := by
  have hblank : ControlFree " " := by decide
  have hopen : ControlFree "='" := by decide
  have hclose : ControlFree "'" := by decide
  simp only [pairWith, controlFree_append, hblank, hopen, hclose, true_and, and_true]

theorem lineWith_eq (shown : Text → Text) (r : LogRecord) :
    r.lineWith shown =
      "[" ++ Decimal.ofInt r.classification.value.toInt ++ "] origin=" ++ r.classification.origin.label ++
        " resolution=" ++ r.classification.resolution.label ++ " type='" ++ shown r.sourceType ++ "' message='" ++
        shown r.message ++ "'" ++ r.metadata.flatMap (pairWith shown) := rfl

theorem controlFree_lineWith_iff (shown : Text → Text) (r : LogRecord) :
    ControlFree (r.lineWith shown) ↔
      ControlFree (shown r.sourceType) ∧ ControlFree (shown r.message) ∧
        ∀ pair ∈ r.metadata, ControlFree pair.1 ∧ ControlFree (shown pair.2.text) := by
  have hcode : ControlFree (Decimal.ofInt r.classification.value.toInt) := Decimal.controlFree_ofInt _
  have horigin : ControlFree r.classification.origin.label := by cases r.classification.origin <;> decide
  have hresolution : ControlFree r.classification.resolution.label := by
    cases r.classification.resolution <;> decide
  have hpairs : ControlFree (r.metadata.flatMap (pairWith shown)) ↔
      ∀ pair ∈ r.metadata, ControlFree pair.1 ∧ ControlFree (shown pair.2.text) := by
    simp only [← controlFree_pairWith_iff shown]
    exact List.forall_mem_flatMap
  have hfixed : ControlFree "[" ∧ ControlFree "] origin=" ∧ ControlFree " resolution=" ∧ ControlFree " type='" ∧
      ControlFree "' message='" ∧ ControlFree "'" := by decide +kernel
  obtain ⟨h₁, h₂, h₃, h₄, h₅, h₆⟩ := hfixed
  simp only [lineWith_eq, controlFree_append]
  constructor
  · rintro ⟨⟨⟨⟨⟨-, htype⟩, -⟩, hmessage⟩, -⟩, hmetadata⟩
    exact ⟨htype, hmessage, hpairs.1 hmetadata⟩
  · rintro ⟨htype, hmessage, hmetadata⟩
    exact ⟨⟨⟨⟨⟨⟨⟨⟨⟨⟨⟨h₁, hcode⟩, h₂⟩, horigin⟩, h₃⟩, hresolution⟩, h₄⟩, htype⟩, h₅⟩, hmessage⟩, h₆⟩,
      hpairs.2 hmetadata⟩

theorem controlFree_line_iff (r : LogRecord) :
    ControlFree r.line ↔
      ControlFree (clip maxLogField r.sourceType) ∧ ControlFree (clip maxLogField r.message) ∧
        ∀ pair ∈ r.metadata, ControlFree pair.1 ∧ ControlFree (clip maxLogField pair.2.text) :=
  controlFree_lineWith_iff _ r

end LogRecord

/-- **What breaks the line of a fault.** For every failure, every classifier and any metadata, the line is free of
control characters exactly when the clipped path of the failure's type is, and every key and every clipped value. -/
theorem Fault.controlFree_line_iff_fields (k : Classifier) (f : Failure) (pairs : Metadata) :
    ControlFree ((ofFailure k f).withAll pairs).log.line ↔
      ControlFree (clip maxLogField f.path.display) ∧
        ∀ pair ∈ pairs, ControlFree pair.1 ∧ ControlFree (clip maxLogField pair.2.text) := by
  have hmessage : ControlFree (clip maxLogField (sanitize (f.path.name ++ ": " ++ f.text))) :=
    (presentable_sanitize _).controlFree.clip _
  rw [withAll_eq, LogRecord.controlFree_line_iff]
  simp only [log, ofFailure, hmessage, List.nil_append, true_and]

/-- a failure whose type is named over two lines, and a plain failure with a value over two lines attached to it -/
theorem log_line_broken_by_type_and_value :
    let forged := ForeignError.failure ⟨"app.views", "Jammed'\n[-31000] origin=BUILTIN", "stuck"⟩
    let plain := ForeignError.failure ⟨"app.views", "Jammed", "stuck"⟩
    let session : Metadata := [("session", .owned "a\nb")]
    ¬ ControlFree ((Fault.ofFailure .standard forged).withAll []).log.line ∧
      (∀ pair ∈ session, ControlFree pair.1) ∧
      ¬ ControlFree ((Fault.ofFailure .standard plain).withAll session).log.line := by
  refine ⟨?_, ?_, ?_⟩
  · rw [LogRecord.controlFree_line_iff]
    decide +kernel
  · decide
  · rw [LogRecord.controlFree_line_iff]
    decide +kernel

end FaultCodes
