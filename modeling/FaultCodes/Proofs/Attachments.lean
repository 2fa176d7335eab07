/-
Attachments: what stays on record when more is attached to a fault.

A handler attaches the method to a fault that has nothing attached yet, so this pair stands first. What is attached
later goes to the end, and a look-up takes the first pair with its key (`FirstUnder`). So the value that a key has is
never displaced: not by one attachment (`FirstUnder.withMetadata`), and by induction not by a chain of them
(`FirstUnder.withAll`).
- `LogRecord.value?_eq_some_iff`, `Fault.method?_eq_some_iff`, `Fault.event_method_of_firstUnder`: the three look-ups, each
  of which reads `FirstUnder`.
- `method_not_displaced`: under any attachments, the three of them give the method of the handler.
-/
import FaultCodes.Proofs.Boundary
import FaultCodes.Proofs.Channels

namespace FaultCodes

/-! ## The first pair with a key -/

namespace Metadata

/-- the text is the value of the first pair with this key -/
def FirstUnder (m : Metadata) (key text : Text) : Prop :=
  ∃ before field after, m = before ++ (key, field) :: after ∧ (∀ pair ∈ before, pair.1 ≠ key) ∧ field.text = text

theorem find?_eq_some_iff_firstUnder {m : Metadata} {key text : Text} :
    (m.find? (·.1 = key)).map (·.2.text) = some text ↔ m.FirstUnder key text := by
  rw [Option.map_eq_some_iff]
  constructor
  · rintro ⟨⟨k, field⟩, hfind, htext⟩
    obtain ⟨hkey, before, after, hm, hbefore⟩ := List.find?_eq_some_iff_append.1 hfind
    obtain rfl : k = key := of_decide_eq_true hkey
    exact ⟨before, field, after, hm, fun pair hpair => by simpa using hbefore pair hpair, htext⟩
  · rintro ⟨before, field, after, hm, hbefore, htext⟩
    refine ⟨(key, field), List.find?_eq_some_iff_append.2 ⟨decide_eq_true rfl, before, after, hm, ?_⟩, htext⟩
    intro pair hpair
    simpa using hbefore pair hpair

/-- pairs that come later displace nothing -/
theorem FirstUnder.append {m : Metadata} {key text : Text} (h : m.FirstUnder key text) (more : Metadata) :
    FirstUnder (m ++ more) key text := by
  obtain ⟨before, field, after, rfl, hbefore, htext⟩ := h
  exact ⟨before, field, after ++ more, List.append_assoc _ _ _, hbefore, htext⟩

end Metadata

open Metadata

/-! ## The look-ups -/

namespace LogRecord

theorem value?_eq_some_iff {r : LogRecord} {key text : Text} :
    r.value? key = some text ↔ r.metadata.FirstUnder key text :=
  find?_eq_some_iff_firstUnder

theorem value?_eq_none_iff {r : LogRecord} {key : Text} : r.value? key = none ↔ ∀ pair ∈ r.metadata, pair.1 ≠ key := by
  simp [value?, List.find?_eq_none]

end LogRecord

namespace Fault

theorem method?_eq_some_iff {fault : Fault} {method : Text} :
    fault.method? = some method ↔ fault.metadata.FirstUnder methodKey method := by
  rw [method?, Metadata.value?_eq_find?, find?_eq_some_iff_firstUnder]

theorem event_method_of_firstUnder {fault : Fault} {method : Text} (h : fault.metadata.FirstUnder methodKey method) :
    fault.log.event.method = method := by
  rw [event_eq, method?_eq_some_iff.2 h, Option.getD_some]

end Fault

/-! ## Attachments to a fault -/

namespace Metadata.FirstUnder

variable {fault : Fault} {key text : Text}

/-- one more attachment -/
theorem withMetadata (h : fault.metadata.FirstUnder key text) (k : Text) (value : Field) :
    (fault.withMetadata k value).metadata.FirstUnder key text :=
  h.append [(k, value)]

/-- a chain of attachments -/
theorem withAll (h : fault.metadata.FirstUnder key text) (pairs : Metadata) :
    (fault.withAll pairs).metadata.FirstUnder key text := by
  induction pairs generalizing fault with
  | nil => exact h
  | cons pair pairs ih => exact ih (h.withMetadata pair.1 pair.2)

end Metadata.FirstUnder

/-- the handler's own pair comes first -/
theorem Fault.firstUnder_raise (method : Text) (f : Failure) : (raise method f).metadata.FirstUnder methodKey method :=
  ⟨[], .shared method, [], rfl, fun _ hpair => absurd hpair List.not_mem_nil, rfl⟩

/-! ## The handler on a failing body -/

variable {σ α : Type}

theorem outcome_handle_of_failure (method : Text) {body : Body σ α} {w : World σ} {f : Failure} {backing : σ}
    (hfails : body.run.run w.backing = (.error f, backing)) :
    (handle method body).outcome w =
      (.error (.raise method f), ⟨backing, w.events ++ [(Fault.raise method f).log.event]⟩) := by
  rw [Call.outcome_handle, hfails]
  rfl

theorem Eventual.value_map {β : Type} (g : α → β) (later : Eventual α) : (later.map g).value = g later.value := by
  induction later with
  | ready a => rfl
  | pending rest ih => exact ih

theorem settleLater_of_failure (method : Text) {later : Eventual (Except Failure α)} {f : Failure}
    (hfails : later.value = .error f) :
    (settleLater method later).value = (.error (.raise method f), [(Fault.raise method f).log.event]) := by
  rw [settleLater, Eventual.value_map, hfails]
  rfl

/-- **The method on record cannot be displaced.** Take any method name and any body that fails. The handler answers
with a fault and emits one event, and does the same for a body that fails the same way after some polls. Attach any
pairs to the fault, pairs under the method's key included: the method of the fault, the value that its log record has
under the method's key and the method of the event are still the handler's, and the event would be the same if it were
emitted now. The metadata are the handler's pair and behind it the pairs in order, and the log record has under every
key the value of the first pair with it, and none when there is no such pair. Code, message and source type are those
of the fault that was answered. -/
theorem method_not_displaced (method : Text) (body : Body σ α) (w : World σ) {f : Failure} {backing : σ}
    (hfails : body.run.run w.backing = (.error f, backing)) :
    ∃ fault event,
      (handle method body).outcome w = (.error fault, ⟨backing, w.events ++ [event]⟩) ∧
      (∀ later : Eventual (Except Failure α), later.value = .error f →
        (settleLater method later).value = (.error fault, [event])) ∧
      ∀ pairs,
        let attached := fault.withAll pairs
        (attached.method? = some method ∧ attached.log.value? methodKey = some method ∧ event.method = method ∧
          attached.log.event = event) ∧
        attached.metadata = (methodKey, .shared method) :: pairs ∧
        (∀ key, (∀ text, attached.log.value? key = some text ↔ attached.metadata.FirstUnder key text) ∧
          (attached.log.value? key = none ↔ ∀ pair ∈ attached.metadata, pair.1 ≠ key)) ∧
        attached.code = fault.code ∧ attached.message = fault.message ∧ attached.sourceType = fault.sourceType := by
  refine ⟨_, _, outcome_handle_of_failure method hfails, fun later => settleLater_of_failure method, fun pairs => ?_⟩
  intro attached
  have hraised := Fault.firstUnder_raise method f
  have hkept : attached.metadata.FirstUnder methodKey method := hraised.withAll pairs
  have hmethod : attached.method? = some method := Fault.method?_eq_some_iff.2 hkept
  have hattached : attached = { Fault.raise method f with metadata := (methodKey, .shared method) :: pairs } :=
    Fault.withAll_eq _ _
  have hevent : attached.log.event = (Fault.raise method f).log.event := by
    rw [Fault.event_eq, Fault.event_eq, hmethod, Fault.method?_raise, hattached]
    rfl
  refine ⟨⟨hmethod, LogRecord.value?_eq_some_iff.2 hkept, Fault.event_method_of_firstUnder hraised, hevent⟩, ?_, ?_, ?_⟩
  · rw [hattached]
  · exact fun key => ⟨fun text => LogRecord.value?_eq_some_iff, LogRecord.value?_eq_none_iff⟩
  · rw [hattached]
    exact ⟨rfl, rfl, rfl⟩

/-- a row that is missing, at once or after two polls; then another method and a session attached to the fault -/
theorem method_not_displaced_by_another :
    let f := ForeignError.failure ⟨"django.http", "Http404", "missing"⟩
    let body : Body Unit Unit := throw f
    let later : Eventual (Except Failure Unit) := .after 2 (.error f)
    let pairs : Metadata := [(methodKey, .owned "tables.list"), ("session", .owned "a")]
    body.run.run () = (.error f, ()) ∧ later.value = .error f ∧
      ∃ fault event, (handle "tables.get" body).outcome ⟨(), []⟩ = (.error fault, ⟨(), [event]⟩) ∧
        (settleLater "tables.get" later).value = (.error fault, [event]) ∧ event.method = "tables.get" ∧
        (fault.withAll pairs).method? = some "tables.get" ∧
        (fault.withAll pairs).log.value? methodKey = some "tables.get" := by
  intro f body later pairs
  have hfails : body.run.run () = (.error f, ()) := rfl
  have hlater : later.value = .error f := rfl
  obtain ⟨fault, event, hanswer, hsettled, hkept⟩ := method_not_displaced "tables.get" body ⟨(), []⟩ hfails
  obtain ⟨⟨hmethod, hvalue, hevent, -⟩, -⟩ := hkept pairs
  exact ⟨hfails, hlater, fault, event, hanswer, hsettled later hlater, hevent, hmethod, hvalue⟩

end FaultCodes
