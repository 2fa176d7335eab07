/-
Runs of calls: what each call asks of its collaborators, and what it reports.

`Collaborators.noted` is a set of collaborators that keep a note of every consultation and of the failure it ended in.
Each call is staged: it consults the parties of its plan one after the other and stops at the first that fails
(`staged_call`). By induction over the stages, the notes change nothing that a call does (`Staged.mirrors`), and every
call answers, emits and consults as its plan says (`Staged.follows`).
- `serve_eq_history`: a run and its noted run answer alike and leave the collaborators alike.
- `failures_reported_once`: in a run of any calls on any collaborators, a call that succeeds emits nothing, a call that
  fails emits one event that tells of its fault, nobody is consulted after a failure, and the fault is the
  classification of the first failure.
-/
import FaultCodes.Session
import FaultCodes.Proofs.Boundary

namespace FaultCodes

/-! ## Noted consultations -/

inductive Party where
  | connector
  | catalog
  | metadata
  | columns
  deriving DecidableEq, Repr

/-- one consultation, and the failure it ended in, if it failed -/
structure Consultation where
  party : Party
  failure : Option Failure
  deriving DecidableEq, Repr

/-- a collaborator's state with the consultations so far -/
structure Noted (σ : Type) where
  state : σ
  consulted : List Consultation

def failure? {α : Type} : Except Failure α → Option Failure
  | .ok _ => none
  | .error f => some f

/-- passes a question on and notes how it ended -/
def noting {σ α : Type} (p : Party) (answer : Answer σ α) : Answer (Noted σ) α := fun w =>
  let (outcome, state) := answer.run w.state
  (outcome, ⟨state, w.consulted ++ [⟨p, failure? outcome⟩]⟩)

/-- the collaborators with their consultations noted -/
def Collaborators.noted {σ τ : Type} (c : Collaborators σ τ) : Collaborators (Noted σ) τ where
  catalog :=
    { connect database user := noting .connector (c.catalog.connect database user)
      tables s schema := noting .catalog (c.catalog.tables s schema)
      table s oid := noting .catalog (c.catalog.table s oid)
      create s schema new := noting .catalog (c.catalog.create s schema new)
      drop s oid cascade := noting .catalog (c.catalog.drop s oid cascade)
      alter s oid changes := noting .catalog (c.catalog.alter s oid changes)
      importFile s schema request := noting .catalog (c.catalog.importFile s schema request)
      preview s oid columns limit := noting .catalog (c.catalog.preview s oid columns limit)
      joinable s oid depth := noting .catalog (c.catalog.joinable s oid depth) }
  metadata :=
    { list database := noting .metadata (c.metadata.list database)
      get oid database := noting .metadata (c.metadata.get oid database) }
  columns :=
    { list database table := noting .columns (c.columns.list database table)
      get database table attnum := noting .columns (c.columns.get database table attnum)
      set database records := noting .columns (c.columns.set database records) }

def World.plain {σ : Type} (w : World (Noted σ)) : World σ :=
  ⟨w.backing.state, w.events⟩

/-! ## Staged calls -/

/-- a call on noted collaborators beside the same call on plain ones: it consults the parties of the plan in order,
each under a handler of the method -/
inductive Staged {σ : Type} (method : Text) : {α : Type} → List Party → Call (Noted σ) α → Call σ α → Prop where
  | done {α : Type} (a : α) : Staged method [] (pure a) (pure a)
  | ask {α : Type} (p : Party) (answer : Answer σ α) :
    Staged method [p] (handle method (FaultCodes.ask (noting p answer))) (handle method (FaultCodes.ask answer))
  | askTwice {α τ : Type} (p q : Party) (first : Answer σ τ) (second : τ → Answer σ α) :
    Staged method [p, q]
      (handle method do FaultCodes.ask (noting q (second (← FaultCodes.ask (noting p first)))))
      (handle method do FaultCodes.ask (second (← FaultCodes.ask first)))
  | mapped {α β : Type} (f : α → β) {plan : List Party} {c : Call (Noted σ) α} {d : Call σ α} :
    Staged method plan c d → Staged method plan (f <$> c) (f <$> d)
  | andThen {α β : Type} {plan plan' : List Party} {c : Call (Noted σ) α} {d : Call σ α}
    {g : α → Call (Noted σ) β} {h : α → Call σ β} :
    Staged method plan c d → (∀ a, Staged method plan' (g a) (h a)) →
      Staged method (plan ++ plan') (c >>= g) (d >>= h)

/-- the parties that a call consults when nothing fails -/
def Request.plan : Request → List Party
  | listWithMetadata .. => [.connector, .catalog, .metadata]
  | getWithMetadata .. => [.connector, .catalog, .metadata]
  | listColumns .. => [.columns]
  | setColumns .. => [.columns]
  | setColumnsJson .. => [.columns]
  | _ => [.connector, .catalog]

/-- why a call is refused before anyone is consulted: its records cannot be read -/
def Request.refusal : Request → Option Failure
  | setColumnsJson _ v => failure? (Columns.readRecords v)
  | _ => none

theorem setJson_of_read {σ : Type} (s : ColumnStore σ) (database : Int64) {v : Json} {records : List ColumnSettings}
    (h : Columns.readRecords v = .ok records) : Columns.setJson s database v = Columns.set s database records := by
  funext w
  change (Columns.setJson s database v).outcome w = (Columns.set s database records).outcome w
  rw [Columns.setJson, h, Call.outcome_bind, Call.outcome_handle]
  change (Columns.set s database records).outcome ⟨w.backing, w.events ++ []⟩ = _
  rw [List.append_nil]

theorem outcome_setJson_of_refused {σ : Type} (s : ColumnStore σ) (database : Int64) {v : Json} {f : Failure}
    (h : Columns.readRecords v = .error f) (w : World σ) :
    (Columns.setJson s database v).outcome w =
      (.error (.raise Columns.setMethod f), ⟨w.backing, w.events ++ [(Fault.raise Columns.setMethod f).log.event]⟩) := by
  rw [Columns.setJson, h, Call.outcome_bind, Call.outcome_handle]
  rfl

theorem staged_call {σ τ : Type} (c : Collaborators σ τ) (r : Request) (hr : r.refusal = none) :
    Staged r.method r.plan (r.call c.noted) (r.call c) := by
  cases r with
  | list database user schema => exact .mapped _ (.askTwice ..)
  | get database user oid => exact .mapped _ (.askTwice ..)
  | add database user schema new => exact .mapped _ (.askTwice ..)
  | delete database user oid cascade => exact .mapped _ (.askTwice ..)
  | patch database user oid changes => exact .mapped _ (.askTwice ..)
  | importFile database user schema request => exact .mapped _ (.askTwice ..)
  | importPreview database user oid columns limit => exact .mapped _ (.askTwice ..)
  | listJoinable database user oid depth => exact .mapped _ (.askTwice ..)
  | listWithMetadata database user schema =>
    exact .mapped _ (.andThen (.askTwice ..) fun _ => .andThen (.ask ..) fun _ => .done _)
  | getWithMetadata database user oid =>
    exact .mapped _ (.andThen (.askTwice ..) fun _ => .andThen (.ask ..) fun _ => .done _)
  | listColumns database table => exact .mapped _ (.ask ..)
  | setColumns database records => exact .mapped _ (.ask ..)
  | setColumnsJson database v =>
    cases hv : Columns.readRecords v with
    | error f => simp [Request.refusal, hv, failure?] at hr
    | ok records =>
      simp only [Request.call, setJson_of_read _ _ hv]
      exact .mapped _ (.ask ..)

/-! ## Notes change nothing -/

theorem run_ask {σ α : Type} (answer : Answer σ α) (state : σ) : (ask answer).run.run state = answer.run state := rfl

theorem run_askTwice {σ τ α : Type} (first : Answer σ τ) (second : τ → Answer σ α) (state : σ) :
    (do ask (second (← ask first)) : Body σ α).run.run state =
      match first.run state with
      | (.ok session, state) => (second session).run state
      | (.error f, state) => (.error f, state) := by
  change (match first state with | (outcome, state) => ExceptT.bindCont (fun s => ask (second s)) outcome state) = _
  change _ = match first state with | (.ok s, state) => second s state | (.error f, state) => (.error f, state)
  rcases first state with ⟨_ | _, state⟩ <;> rfl

theorem run_noting {σ α : Type} (p : Party) (answer : Answer σ α) (w : Noted σ) :
    (noting p answer).run w =
      ((answer.run w.state).1, ⟨(answer.run w.state).2, w.consulted ++ [⟨p, failure? (answer.run w.state).1⟩]⟩) := rfl

/-- a staged call and its noted twin give the same answer and the same world -/
theorem Staged.mirrors {σ α : Type} {method : Text} {plan : List Party} {c : Call (Noted σ) α} {d : Call σ α}
    (h : Staged method plan c d) (w : World (Noted σ)) :
    d.outcome w.plain = ((c.outcome w).1, (c.outcome w).2.plain) := by
  induction h generalizing w with
  | done a => rfl
  | ask p answer => rfl
  | askTwice p q first second =>
    have hfirst : w.plain.backing = w.backing.state := rfl
    simp only [Call.outcome_handle, run_askTwice, run_noting, hfirst]
    rcases first.run w.backing.state with ⟨f | session, state⟩ <;> rfl
  | mapped f _ ih => rw [Call.outcome_map, Call.outcome_map, ih]
  | @andThen α β plan plan' c d g h _ _ ih ih' =>
    rw [Call.outcome_bind, Call.outcome_bind, ih]
    rcases c.outcome w with ⟨fault | a, w'⟩
    · rfl
    · exact ih' a w'

/-! ## What a staged call reports -/

/-- what a call under a method may answer, consult and emit, by its plan -/
inductive Account {α : Type} (method : Text) : List Party → Except Fault α → List Consultation → List Event → Prop where
  | answered (plan : List Party) (a : α) : Account method plan (.ok a) (plan.map fun p => ⟨p, none⟩) []
  | failed (before : List Party) (p : Party) (after : List Party) (f : Failure) :
    Account method (before ++ p :: after) (.error (.raise method f))
      ((before.map fun p => ⟨p, none⟩) ++ [⟨p, some f⟩]) [(Fault.raise method f).log.event]

theorem Account.mapped {α β : Type} {method : Text} {plan : List Party} {answer : Except Fault α}
    {consulted : List Consultation} {events : List Event} (f : α → β)
    (h : Account method plan answer consulted events) : Account method plan (answer.map f) consulted events := by
  cases h with
  | answered _ a => exact .answered plan (f a)
  | failed before p after f => exact .failed before p after f

/-- a call that fails in its first part has the same account with more to come -/
theorem Account.cut {α β : Type} {method : Text} {plan : List Party} {fault : Fault} {consulted : List Consultation}
    {events : List Event} (h : Account (α := α) method plan (.error fault) consulted events) (rest : List Party) :
    Account (α := β) method (plan ++ rest) (.error fault) consulted events := by
  cases h with
  | failed before p after f =>
    rw [List.append_assoc, List.cons_append]
    exact .failed before p (after ++ rest) f

/-- a call that goes on after a first part that succeeded -/
theorem Account.resume {α : Type} {method : Text} {plan : List Party} {answer : Except Fault α}
    {consulted : List Consultation} {events : List Event} (h : Account method plan answer consulted events)
    (before : List Party) :
    Account method (before ++ plan) answer ((before.map fun p => ⟨p, none⟩) ++ consulted) events := by
  cases h with
  | answered _ a =>
    rw [← List.map_append]
    exact .answered _ a
  | failed before' p after f =>
    rw [← List.append_assoc, ← List.append_assoc, ← List.map_append]
    exact .failed _ p after f

/-- the call adds to the notes and the events what its account says -/
def Follows {σ α : Type} (method : Text) (plan : List Party) (c : Call (Noted σ) α) (w : World (Noted σ)) : Prop :=
  ∃ consulted events, (c.outcome w).2.backing.consulted = w.backing.consulted ++ consulted ∧
    (c.outcome w).2.events = w.events ++ events ∧ Account method plan (c.outcome w).1 consulted events

/-- **A staged call keeps to its plan.** -/
theorem Staged.follows {σ α : Type} {method : Text} {plan : List Party} {c : Call (Noted σ) α} {d : Call σ α}
    (h : Staged method plan c d) (w : World (Noted σ)) : Follows method plan c w := by
  induction h generalizing w with
  | done a => exact ⟨[], [], (List.append_nil _).symm, (List.append_nil _).symm, .answered [] a⟩
  | ask p answer =>
    simp only [Follows, Call.outcome_handle, run_ask, run_noting]
    rcases answer.run w.backing.state with ⟨f | a, state⟩
    · exact ⟨_, _, rfl, rfl, .failed [] p [] f⟩
    · exact ⟨_, _, rfl, rfl, .answered [p] a⟩
  | askTwice p q first second =>
    simp only [Follows, Call.outcome_handle, run_askTwice, run_noting]
    rcases first.run w.backing.state with ⟨f | session, state⟩
    · exact ⟨_, _, rfl, rfl, .failed [] p [q] f⟩
    · simp only [List.append_assoc]
      rcases (second session).run state with ⟨f | a, state⟩
      · exact ⟨_, _, rfl, rfl, .failed [p] q [] f⟩
      · exact ⟨_, _, rfl, rfl, .answered [p, q] a⟩
  | mapped f _ ih =>
    obtain ⟨consulted, events, hc, he, ha⟩ := ih w
    refine ⟨consulted, events, ?_, ?_, ?_⟩ <;> rw [Call.outcome_map]
    · exact hc
    · exact he
    · exact ha.mapped f
  | @andThen α β plan plan' c d g h _ _ ih ih' =>
    obtain ⟨consulted, events, hc, he, ha⟩ := ih w
    unfold Follows
    rw [Call.outcome_bind]
    rcases hrun : c.outcome w with ⟨fault | a, w'⟩
    · rw [hrun] at hc he ha
      exact ⟨consulted, events, hc, he, ha.cut plan'⟩
    · rw [hrun] at hc he ha
      obtain ⟨consulted', events', hc', he', ha'⟩ := ih' a w'
      cases ha
      refine ⟨_, events', ?_, ?_, ha'.resume plan⟩
      · rw [hc', hc, List.append_assoc]
      · rw [he', he, List.append_nil]

/-! ## Runs -/

/-- one answered call of a run, with the consultations made for it -/
structure Exchange where
  request : Request
  served : Served
  consulted : List Consultation

/-- a run with its notes, which start anew for every call -/
def history {σ τ : Type} (c : Collaborators σ τ) (state : σ) : List Request → List Exchange × σ
  | [] => ([], state)
  | r :: rs =>
    let (served, noted) := serveOne c.noted ⟨state, []⟩ r
    let (rest, state) := history c noted.state rs
    (⟨r, served, noted.consulted⟩ :: rest, state)

/-- the failure that ends a call: the one its records are refused with, else the first one of a collaborator -/
def Exchange.firstFailure (e : Exchange) : Option Failure :=
  e.request.refusal.or (e.consulted.findSome? Consultation.failure)

/-- a call is answered and reported as it should be -/
structure Reported (e : Exchange) : Prop where
  /-- the collaborators are consulted in the order of the plan -/
  inOrder : e.consulted.map Consultation.party <+: e.request.plan
  /-- nobody is consulted after a failure -/
  stops : ∀ s ∈ e.consulted.dropLast, s.failure = none
  /-- success is silent; the whole plan was carried out and nothing failed -/
  quiet : ∀ reply, e.served.answer = .ok reply →
    e.served.events = [] ∧ e.firstFailure = none ∧ e.consulted.map Consultation.party = e.request.plan
  /-- a fault is told of once -/
  told : ∀ fault, e.served.answer = .error fault →
    ∃ event, e.served.events = [event] ∧ Describes event fault e.request.method
  /-- a fault is the classification of the first failure -/
  cause : ∀ fault, e.served.answer = .error fault → ∃ f, e.firstFailure = some f ∧
    fault = .raise e.request.method f ∧ fault.classification = Classifier.standard.classify f
  /-- without a session no question reaches the catalog -/
  noSession : ∀ f, ⟨.connector, some f⟩ ∈ e.consulted → ∀ s ∈ e.consulted, s.party ≠ .catalog
  /-- without the catalog's answer no question reaches the metadata store -/
  noAnswer : ∀ p f, p = .connector ∨ p = .catalog → ⟨p, some f⟩ ∈ e.consulted →
    ∀ s ∈ e.consulted, s.party ≠ .metadata

def Party.rank : Party → Nat
  | connector => 0
  | catalog => 1
  | metadata => 2
  | columns => 3

theorem plan_ascends (r : Request) : r.plan.Pairwise fun p q => p.rank < q.rank := by
  cases r <;> simp [Request.plan, Party.rank]

/-- after a consultation that fails, nobody of a higher rank is consulted -/
theorem Account.not_consulted {α : Type} {method : Text} {plan : List Party} {answer : Except Fault α}
    {consulted : List Consultation} {events : List Event} (h : Account method plan answer consulted events)
    (hp : plan.Pairwise fun p q => p.rank < q.rank) {p q : Party} (hpq : p.rank < q.rank) {f : Failure}
    (hf : ⟨p, some f⟩ ∈ consulted) : ∀ s ∈ consulted, s.party ≠ q := by
  cases h with
  | answered a => simp at hf
  | failed before p' after f' =>
    simp only [List.mem_append, List.mem_map, List.mem_singleton, Consultation.mk.injEq, reduceCtorEq, and_false,
      exists_false, false_or] at hf
    obtain ⟨rfl, -⟩ := hf
    have hbefore := (List.pairwise_append.1 hp).2.2
    rintro s hs rfl
    rcases List.mem_append.1 hs with hs | hs
    · obtain ⟨b, hb, rfl⟩ := List.mem_map.1 hs
      have := hbefore b hb p List.mem_cons_self
      exact absurd hpq (Nat.lt_asymm this)
    · rw [List.mem_singleton.1 hs] at hpq
      exact absurd hpq (Nat.lt_irrefl _)

theorem map_party_answered (ps : List Party) :
    (ps.map fun p => (⟨p, none⟩ : Consultation)).map Consultation.party = ps := by
  rw [List.map_map]
  exact List.map_id ps

theorem failure_of_mem_answered {ps : List Party} {s : Consultation} (h : s ∈ ps.map fun p => ⟨p, none⟩) :
    s.failure = none := by
  obtain ⟨p, -, rfl⟩ := List.mem_map.1 h
  rfl

theorem findSome?_failure_answered (ps : List Party) :
    (ps.map fun p => (⟨p, none⟩ : Consultation)).findSome? Consultation.failure = none :=
  List.findSome?_eq_none_iff.2 fun _ hs => failure_of_mem_answered hs

/-- a call whose records can be read -/
theorem reported_of_account {r : Request} {served : Served} {consulted : List Consultation} (hr : r.refusal = none)
    (h : Account r.method r.plan served.answer consulted served.events) : Reported ⟨r, served, consulted⟩ := by
  have hafter {p q : Party} (hpq : p.rank < q.rank) (f : Failure) (hf : ⟨p, some f⟩ ∈ consulted) :
      ∀ s ∈ consulted, s.party ≠ q := h.not_consulted (plan_ascends r) hpq hf
  have hsession := hafter (show Party.connector.rank < Party.catalog.rank by decide)
  have hanswer (p : Party) (f : Failure) (hp : p = .connector ∨ p = .catalog) :
      ⟨p, some f⟩ ∈ consulted → ∀ s ∈ consulted, s.party ≠ .metadata :=
    hafter (show p.rank < Party.metadata.rank by rcases hp with rfl | rfl <;> decide) f
  obtain ⟨answer, events⟩ := served
  generalize hplan : r.plan = plan at h
  cases h with
  | answered _ reply =>
    refine ⟨?_, fun s hs => ?_, fun _ _ => ⟨rfl, ?_, ?_⟩, fun _ he => (nomatch he), fun _ he => (nomatch he),
      hsession, hanswer⟩
    · simp only [map_party_answered, hplan, List.prefix_refl]
    · exact failure_of_mem_answered ((List.dropLast_subset _) hs)
    · simp only [Exchange.firstFailure, hr, findSome?_failure_answered, Option.or_none]
    · simp only [map_party_answered, hplan]
  | failed before p after f =>
    refine ⟨?_, fun s hs => ?_, fun _ he => (nomatch he), fun fault he => ?_, fun fault he => ?_, hsession, hanswer⟩
    · simp only [List.map_append, map_party_answered, hplan]
      exact ⟨after, List.append_assoc before [p] after⟩
    · rw [List.dropLast_concat] at hs
      exact failure_of_mem_answered hs
    · cases he
      exact ⟨_, rfl, describes_event_raise r.method f⟩
    · cases he
      refine ⟨f, ?_, rfl, rfl⟩
      rw [Exchange.firstFailure, hr, Option.none_or, List.findSome?_append, findSome?_failure_answered, Option.none_or]
      rfl

/-- a call whose records are refused -/
theorem reported_of_refusal {r : Request} {f : Failure} (hr : r.refusal = some f) :
    Reported ⟨r, ⟨.error (.raise r.method f), [(Fault.raise r.method f).log.event]⟩, []⟩ where
  inOrder := List.nil_prefix
  stops _ hs := absurd hs List.not_mem_nil
  quiet _ he := nomatch he
  told fault he := by
    cases he
    exact ⟨_, rfl, describes_event_raise r.method f⟩
  cause fault he := by
    cases he
    exact ⟨f, by simp [Exchange.firstFailure, hr], rfl, rfl⟩
  noSession _ hf := absurd hf List.not_mem_nil
  noAnswer _ _ _ hf := absurd hf List.not_mem_nil

theorem serveOne_of_refusal {σ τ : Type} (c : Collaborators σ τ) (state : σ) {r : Request} {f : Failure}
    (hr : r.refusal = some f) :
    serveOne c state r = (⟨.error (.raise r.method f), [(Fault.raise r.method f).log.event]⟩, state) := by
  cases r with
  | setColumnsJson database v =>
    cases hv : Columns.readRecords v with
    | ok records => simp [Request.refusal, hv, failure?] at hr
    | error g =>
      obtain rfl : g = f := by simpa [Request.refusal, hv, failure?] using hr
      simp only [serveOne, Request.call, Call.outcome_map, outcome_setJson_of_refused _ _ hv]
      rfl
  | _ => cases hr

/-- one call: its notes change nothing, and it is reported -/
theorem serveOne_noted {σ τ : Type} (c : Collaborators σ τ) (state : σ) (r : Request) :
    serveOne c state r =
        ((serveOne c.noted ⟨state, []⟩ r).1, (serveOne c.noted ⟨state, []⟩ r).2.state) ∧
      Reported ⟨r, (serveOne c.noted ⟨state, []⟩ r).1, (serveOne c.noted ⟨state, []⟩ r).2.consulted⟩ := by
  cases hr : r.refusal with
  | some f =>
    rw [serveOne_of_refusal c state hr, serveOne_of_refusal c.noted ⟨state, []⟩ hr]
    exact ⟨rfl, reported_of_refusal hr⟩
  | none =>
    have hs := staged_call c r hr
    have hmirrors := hs.mirrors ⟨⟨state, []⟩, []⟩
    obtain ⟨consulted, events, hconsulted, hevents, haccount⟩ := hs.follows ⟨⟨state, []⟩, []⟩
    rw [List.nil_append] at hconsulted hevents
    constructor
    · have hplain : (World.plain ⟨⟨state, []⟩, []⟩ : World σ) = ⟨state, []⟩ := rfl
      simp only [serveOne, ← hplain, hmirrors]
      rfl
    · refine reported_of_account hr ?_
      simp only [serveOne, hconsulted, hevents]
      exact haccount

/-! ## Runs reported -/

/-- **A run and its noted run answer alike and leave the collaborators alike.** -/
theorem serve_eq_history {σ τ : Type} (c : Collaborators σ τ) (state : σ) (rs : List Request) :
    serve c state rs = ((history c state rs).1.map Exchange.served, (history c state rs).2) := by
  induction rs generalizing state with
  | nil => rfl
  | cons r rs ih =>
    simp only [serve, history, List.map_cons, (serveOne_noted c state r).1, ih]

/-- every call of a run has its exchange -/
theorem requests_history {σ τ : Type} (c : Collaborators σ τ) (state : σ) (rs : List Request) :
    (history c state rs).1.map Exchange.request = rs := by
  induction rs generalizing state with
  | nil => rfl
  | cons r rs ih => simp only [history, List.map_cons, ih]

theorem reported_history {σ τ : Type} (c : Collaborators σ τ) (state : σ) (rs : List Request) :
    ∀ e ∈ (history c state rs).1, Reported e := by
  induction rs generalizing state with
  | nil => exact fun e he => absurd he List.not_mem_nil
  | cons r rs ih =>
    intro e he
    rcases List.mem_cons.1 he with rfl | he
    · exact (serveOne_noted c state r).2
    · exact ih _ e he

/-- **Every failure of a run is reported once, and nothing else is.** The run is its noted run, with an exchange for
each request in order, and each exchange is reported. -/
theorem failures_reported_once {σ τ : Type} (c : Collaborators σ τ) (state : σ) (rs : List Request) :
    serve c state rs = ((history c state rs).1.map Exchange.served, (history c state rs).2) ∧
      (history c state rs).1.map Exchange.request = rs ∧ ∀ e ∈ (history c state rs).1, Reported e :=
  ⟨serve_eq_history c state rs, requests_history c state rs, reported_history c state rs⟩

end FaultCodes
