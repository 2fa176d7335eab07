/-
The boundary: every method body runs under a handler that turns its failure into a fault.

`settle` is the handler on a finished body: success passes through and emits nothing; a failure
becomes a fault under the method's name and emits exactly one event. `handle` runs a body on the
state of the collaborators and settles what comes out, and `Eventual` is a body that becomes ready
only after some polls.
-/
import FaultCodes.Fault

namespace FaultCodes

/-- the handler on a finished body: the answer and the events emitted -/
def settle {α : Type} (method : Text) : Except Failure α → Except Fault α × List Event
  | .ok a => (.ok a, [])
  | .error f => (.error (.raise method f), [(Fault.raise method f).log.event])

/-- what a call works on: the state of the collaborators and the events emitted so far -/
structure World (σ : Type) where
  backing : σ
  events : List Event

/-- a body: reads and changes the collaborators, and may fail -/
abbrev Body (σ α : Type) := ExceptT Failure (StateM σ) α

/-- a method call: a body under handlers -/
abbrev Call (σ α : Type) := ExceptT Fault (StateM (World σ)) α

/-- runs a body under the handler of a method -/
def handle {σ α : Type} (method : Text) (body : Body σ α) : Call σ α := fun w =>
  let (outcome, backing) := body.run.run w.backing
  let (answer, emitted) := settle method outcome
  (answer, ⟨backing, w.events ++ emitted⟩)

def Call.outcome {σ α : Type} (c : Call σ α) (w : World σ) : Except Fault α × World σ :=
  c.run.run w

/-- a value that is there after some polls -/
inductive Eventual (α : Type) where
  | ready (value : α)
  | pending (rest : Eventual α)

namespace Eventual

/-- a value that is there after `n` vain polls -/
def after {α : Type} : Nat → α → Eventual α
  | 0, a => ready a
  | n + 1, a => pending (after n a)

/-- polls until the value is there, the last one included -/
def polls {α : Type} : Eventual α → Nat
  | ready _ => 1
  | pending e => e.polls + 1

def value {α : Type} : Eventual α → α
  | ready a => a
  | pending e => e.value

def map {α β : Type} (f : α → β) : Eventual α → Eventual β
  | ready a => ready (f a)
  | pending e => pending (e.map f)

end Eventual

/-- the handler on a body that becomes ready later -/
def settleLater {α : Type} (method : Text) (body : Eventual (Except Failure α)) :
    Eventual (Except Fault α × List Event) :=
  body.map (settle method)

end FaultCodes
