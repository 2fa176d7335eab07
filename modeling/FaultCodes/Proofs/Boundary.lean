/-
The handler and the calls built from it: one equation for each way of putting calls together, and what the event of a
fault says.
- `outcome_handle`, `outcome_bind`, `outcome_map`: how a call runs.
- `describes_event_raise`: the event emitted for a failure tells of the fault that is answered, under its method.
-/
import FaultCodes.Boundary
import FaultCodes.Proofs.Fault

namespace FaultCodes

/-! ## How calls run -/

namespace Call

variable {σ α β : Type}

theorem outcome_bind (c : Call σ α) (g : α → Call σ β) (w : World σ) :
    (c >>= g).outcome w =
      match c.outcome w with
      | (.ok a, w') => (g a).outcome w'
      | (.error fault, w') => (.error fault, w') := by
  change (match c w with | (a, w') => ExceptT.bindCont g a w') = _
  change _ = match c w with | (.ok a, w') => g a w' | (.error fault, w') => (.error fault, w')
  rcases c w with ⟨_ | _, w'⟩ <;> rfl

theorem outcome_map (f : α → β) (c : Call σ α) (w : World σ) :
    (f <$> c).outcome w = ((c.outcome w).1.map f, (c.outcome w).2) := by
  rw [← bind_pure_comp, outcome_bind]
  rcases c.outcome w with ⟨_ | _, w'⟩ <;> rfl

theorem outcome_handle (method : Text) (body : Body σ α) (w : World σ) :
    (handle method body).outcome w =
      ((settle method (body.run.run w.backing).1).1,
        ⟨(body.run.run w.backing).2, w.events ++ (settle method (body.run.run w.backing).1).2⟩) := rfl

end Call

/-! ## What the event of a fault says -/

/-- the event tells of the fault, under the method -/
structure Describes (e : Event) (fault : Fault) (method : Text) : Prop where
  code : e.code = fault.code
  origin : e.origin = fault.classification.origin
  resolution : e.resolution = fault.classification.resolution
  sourceType : e.sourceType = fault.sourceType
  method : e.method = method
  level : e.level =
    if fault.classification.origin = .application ∨ fault.classification.origin = .toolkit then .debug else .warn

theorem callerFacing_iff (o : Origin) : o.callerFacing = true ↔ o = .application ∨ o = .toolkit := by
  cases o <;> decide

theorem describes_event_raise (method : Text) (f : Failure) :
    Describes (Fault.raise method f).log.event (Fault.raise method f) method where
  code := rfl
  origin := rfl
  resolution := rfl
  sourceType := rfl
  method := by rw [Fault.event_eq, Fault.method?_raise, Option.getD_some]
  level := by simp only [LogRecord.event, Fault.log, callerFacing_iff]

end FaultCodes
