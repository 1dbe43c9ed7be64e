import Mathlib
import StoreClient.Client
import StoreClient.Proofs.Conduct
import StoreClient.Proofs.CrossTalk
import StoreClient.Proofs.Pool
import StoreClient.Proofs.Reachable

/-!
# Outcomes of calls

A call has one outcome, which it may give in three ways (`Call.result?`, `Call.answer?`,
`Call.told`). Whatever happens to the client, a call stays in order (`Call.InOrder`): it waits for a
connection, or its exchange leads its operation, or it is over. A new call is in order
(`Client.serves_make`), and no input disturbs it (`Client.Serves.step`). The headline is
`one_outcome`.
-/

namespace StoreClient

open Operation (Event Leads)
open Exchange (Turn Carrying)

namespace Call

/-- What holds of a call at any time, where its operation is failed with faults that are `P`, and
connections cannot be had by faults that are `U`. -/
inductive InOrder (P U : Fault → Prop) : Call → Prop where
  | connecting {request delivery r} :
    InOrder P U { request, delivery, stage := .connecting r }
  | exchanging {request delivery slot x events} :
    x.connection.Reachable →
    Carrying P (.ofRequest request delivery) x events →
    InOrder P U { request, delivery, stage := .exchanging slot x, events }
  | unserved {request delivery fault} :
    U fault →
    InOrder P U { request, delivery, stage := .unserved fault }
  | ended {request delivery p events} :
    Leads P (.ofRequest request delivery) p events →
    p.isTerminal = true →
    InOrder P U { request, delivery, stage := .ended (.ok p.state), events }
  | dropped {request delivery p events} :
    Leads P (.ofRequest request delivery) p events →
    InOrder P U { request, delivery, stage := .dropped, events }

section InOrder

variable {P U : Fault → Prop} {request : Request} {delivery : Delivery} {heard : List Event}

/-- A turn of its exchange leaves a call in order. The connection that it gives back can be used
only if it shows no input. -/
lemma inOrder_ofTurn {turn : Turn} (reach : turn.connection.Reachable)
    (h : turn.Conducts P (.ofRequest request delivery) (heard ++ turn.events)) {slot : Nat}
    {stage : Stage} {events : List Event} {back : Option Pool.Pooled}
    (e : ofTurn slot turn = (stage, events, back)) :
    InOrder P U { request, delivery, stage, events := heard ++ events } ∧
      ∀ i ∈ back, i.connection.Reachable ∧
        (i.connection.isUsable = true → i.connection.hasBufferedInput = false) := by
  unfold ofTurn at e
  unfold Turn.Conducts at h
  unfold Turn.connection at reach
  cases progress : turn.progress with
  | waiting x =>
    rw [progress] at e h reach
    cases e
    exact ⟨.exchanging reach h, by simp⟩
  | ended ended =>
    rw [progress] at e h reach
    cases e
    rw [Operation.abandon_of_isTerminal h.settled, List.append_nil, h.result]
    refine ⟨.ended h.leads h.settled, ?_⟩
    rintro _ ⟨⟩
    exact ⟨reach, h.unbuffered⟩

end InOrder

end Call

/-- A fault by which no connection can be had. -/
def Fault.IsUnserved (f : Fault) : Prop :=
  f.kind = .poolExhausted ∨ f.kind = .unresolved ∨ f.kind = .connect

/-- A connection that is given to a call. Where it is no good, the call fails with a fault that is
`P`. -/
structure Connection.Offered (P : Fault → Prop) (c : Connection) : Prop where
  reachable : c.Reachable
  refused : c.isUsable = false → P (.binding (.notUsable c.id))
  stale : c.isUsable = true → c.hasBufferedInput = true → P .unexpectedResponse

namespace Client

/-- The call of a number is for this request and in order. -/
def Serves (P U : Fault → Prop) (c : Client) (number : Nat) (request : Request)
    (delivery : Delivery) : Prop :=
  ∃ call, c.calls[number]? = some call ∧ call.request = request ∧ call.delivery = delivery ∧
    call.InOrder P U

/-- The call that an input is for. -/
def Input.number? : Input → Option Nat
  | .made _ _ | .closed => none
  | .connected number _ | .completed number _ | .expired number | .cancelled number => some number

section serves

variable {P U : Fault → Prop} {c : Client} {number : Nat} {request : Request} {delivery : Delivery}
  {call : Call}

/-- Calls that are there are not disturbed by a new one. -/
lemma getElem?_make (here : c.calls[number]? = some call) (request : Request)
    (delivery : Delivery) : (c.make request delivery).calls[number]? = some call := by
  have inside := (List.getElem?_eq_some_iff.1 here).1
  unfold Client.make
  dsimp only
  rw [← here]
  exact List.getElem?_append_left inside

/-- What happens to one call changes no other one. -/
lemma calls_step {input : Input} (own : input.number? = some number) :
    (c.step input).calls = c.calls ∨ ∃ call, (c.step input).calls = c.calls.set number call := by
  cases input with
  | made request delivery | closed => cases own
  | connected m result =>
    cases own
    unfold Client.step
    dsimp only
    split
    · split
      · cases result <;> exact .inr ⟨_, rfl⟩
      · exact .inl rfl
    · exact .inl rfl
  | completed m completion | expired m =>
    cases own
    unfold Client.step
    dsimp only
    split
    · split
      · exact .inr ⟨_, rfl⟩
      · exact .inl rfl
    · exact .inl rfl
  | cancelled m =>
    cases own
    unfold Client.step
    dsimp only
    split
    · unfold Client.cancel
      split
      · exact .inr ⟨_, rfl⟩
      · exact .inr ⟨_, rfl⟩
      · exact .inl rfl
    · exact .inl rfl

/-- A call is not disturbed by what happens to others. -/
lemma getElem?_step (here : c.calls[number]? = some call) {input : Input}
    (other : input.number? ≠ some number) : (c.step input).calls[number]? = some call := by
  cases own : input.number? with
  | none =>
    cases input with
    | made request delivery => exact getElem?_make here request delivery
    | closed => exact here
    | connected _ _ | completed _ _ | expired _ | cancelled _ => cases own
  | some m =>
    have ne : m ≠ number := fun same => other (same ▸ own)
    rcases c.calls_step own with same | ⟨call', set⟩
    · rw [same, here]
    · rw [set, List.getElem?_set_ne ne, here]

/-- A turn of its exchange leaves a call in order. -/
lemma serves_advance (inside : number < c.calls.length) {turn : Turn}
    (reach : turn.connection.Reachable)
    (h : turn.Conducts P (.ofRequest call.request call.delivery) (call.events ++ turn.events))
    (slot : Nat) :
    (c.advance number call slot turn).Serves P U number call.request call.delivery := by
  unfold Client.advance
  generalize e : Call.ofTurn slot turn = made
  obtain ⟨stage, events, back⟩ := made
  exact ⟨_, List.getElem?_set_self inside, rfl, rfl, (Call.inOrder_ofTurn reach h e).1⟩

variable (transfer : ∀ fault : Fault, fault.IsTransfer → P fault)
include transfer

/-- The first turn of a call. -/
lemma firstTurn_conducts {pooled : Pool.Pooled} (offered : pooled.connection.Offered P)
    (request : Request) (delivery : Delivery) :
    (Call.firstTurn request delivery pooled).connection.Reachable ∧
      (Call.firstTurn request delivery pooled).Conducts P (.ofRequest request delivery)
        ([] ++ (Call.firstTurn request delivery pooled).events) := by
  refine ⟨.started _ offered.reachable, ?_⟩
  exact Exchange.start_conducts transfer rfl rfl offered.refused offered.stale
    offered.reachable.inStep

/-- A new call is in order. -/
lemma serves_make (offered : ∀ i ∈ c.pool.available, i.connection.Offered P)
    (exhausted : U .poolExhausted) (request : Request) (delivery : Delivery) :
    (c.make request delivery).Serves P U c.calls.length request delivery := by
  have begun := c.pool.checkOut_begun
  unfold Client.make
  generalize c.pool.checkOut = checkout at begun
  cases begun with
  | refused => exact ⟨_, List.getElem?_concat_length, rfl, rfl, .unserved exhausted⟩
  | connecting _ => exact ⟨_, List.getElem?_concat_length, rfl, rfl, .connecting⟩
  | @ready idle pool taken =>
    have among : idle ∈ c.pool.available := by
      rw [(Pool.takeIdle_eq_some taken).1]
      exact List.mem_cons_self
    obtain ⟨reach, h⟩ := firstTurn_conducts transfer (offered idle among) request delivery
    dsimp only
    generalize e : Call.ofTurn idle.slot (Call.firstTurn request delivery idle) = made
    obtain ⟨stage, events, back⟩ := made
    exact ⟨_, List.getElem?_concat_length, rfl, rfl, (Call.inOrder_ofTurn reach h e).1⟩

/-- Whatever happens, a call stays in order. -/
lemma Serves.step (h : c.Serves P U number request delivery) {input : Input}
    (unopened : ∀ m fault, input = .connected m (.error fault) → U fault) :
    (c.step input).Serves P U number request delivery := by
  obtain ⟨call, here, rfl, rfl, ok⟩ := h
  have inside := (List.getElem?_eq_some_iff.1 here).1
  by_cases own : input.number? = some number
  · have old : c.Serves P U number call.request call.delivery := ⟨call, here, rfl, rfl, ok⟩
    cases input with
    | made request delivery | closed => cases own
    | connected m result =>
      cases own
      simp only [Client.step, here]
      cases ok with
      | @connecting request delivery r =>
        cases result with
        | error fault =>
          exact ⟨_, List.getElem?_set_self inside, rfl, rfl, .unserved (unopened _ _ rfl)⟩
        | ok address =>
          have offered : (c.pool.connected r address).1.connection.Offered P :=
            ⟨.addressed address (.opened _ _ _), by rintro ⟨⟩, by rintro - ⟨⟩⟩
          obtain ⟨reach, h⟩ := firstTurn_conducts transfer offered request delivery
          exact serves_advance inside reach h _
      | exchanging _ _ | unserved _ | ended _ _ | dropped _ => exact old
    | completed m completion =>
      cases own
      simp only [Client.step, here]
      cases ok with
      | exchanging reach carrying =>
        exact serves_advance inside (.resumed completion reach)
          (carrying.resume transfer completion) _
      | connecting | unserved _ | ended _ _ | dropped _ => exact old
    | expired m =>
      cases own
      simp only [Client.step, here]
      cases ok with
      | exchanging reach carrying =>
        exact serves_advance inside (.expired reach) (carrying.expire transfer) _
      | connecting | unserved _ | ended _ _ | dropped _ => exact old
    | cancelled m =>
      cases own
      simp only [Client.step, here]
      cases ok with
      | connecting =>
        exact ⟨_, List.getElem?_set_self inside, rfl, rfl, .dropped (.refl _ _)⟩
      | exchanging reach carrying =>
        obtain ⟨p, leads⟩ := carrying.abandon transfer
        exact ⟨_, List.getElem?_set_self inside, rfl, rfl, .dropped leads⟩
      | unserved _ | ended _ _ | dropped _ => exact old
  · exact ⟨call, getElem?_step here own, rfl, rfl, ok⟩

/-- A call is served by its client, whatever happens. -/
lemma Serves.run (h : c.Serves P U number request delivery) {inputs : List Input}
    (unopened : ∀ m fault, .connected m (.error fault) ∈ inputs → U fault) :
    (c.run inputs).Serves P U number request delivery := by
  induction inputs generalizing c with
  | nil => exact h
  | cons input inputs ih =>
    have next : (c.step input).Serves P U number request delivery :=
      h.step transfer fun m fault e => unopened m fault (by simp [e])
    exact ih next fun m fault mem => unopened m fault (List.mem_cons_of_mem _ mem)

end serves

end Client

namespace Call

/-! ### The outcome -/

/-- The outcome of a call that went so: it is the same in all three ways, and behind it nothing
comes. -/
inductive Outcome (c : Call) : Except Fault Operation.State → Prop where
  /-- No connection could be had. A listener of its own has heard of nothing. -/
  | unserved {fault} :
    fault.IsUnserved →
    c.events = [] →
    c.told = [.fault fault] →
    c.answer? = some (.error fault) →
    Outcome c (.error fault)
  | done {fragments : List Response} {r} :
    (c.delivery = .merged → fragments = []) →
    c.events = fragments.map (.response · false) ++ [.response r true] →
    c.told = fragments.map (.response · false) ++ [.response r true] →
    c.answer? = some (.ok r) →
    Outcome c (.ok .done)
  | failed {fragments : List Response} {fault} :
    (c.delivery = .merged → fragments = []) →
    c.events = fragments.map (.response · false) ++ [.fault fault] →
    c.told = fragments.map (.response · false) ++ [.fault fault] →
    c.answer? = some (.error fault) →
    Outcome c (.ok .failed)

/-- The outcome is what comes behind the fragments. -/
lemma find?_fragments (fragments : List Response) {e : Event} (last : e.isTerminal = true) :
    (fragments.map (Event.response · false) ++ [e]).find? (·.isTerminal) = some e := by
  induction fragments with
  | nil => simp [last]
  | cons r fragments ih => simpa [Event.isTerminal] using ih

/-- A call that is in order and over has its outcome. It is never that there was none. -/
lemma InOrder.outcome {c : Call}
    (h : c.InOrder (· ≠ .binding .noOutcome) Fault.IsUnserved)
    {result : Except Fault Operation.State} (e : c.result? = some result) :
    c.Outcome result ∧ c.answer? ≠ some (.error (.binding .noOutcome)) := by
  cases h with
  | connecting | exchanging _ _ | dropped _ => cases e
  | @unserved request delivery fault own =>
    cases e
    refine ⟨.unserved own rfl rfl rfl, ?_⟩
    rintro ⟨⟩
    simp [Fault.IsUnserved, Fault.kind] at own
  | @ended request delivery p events leads term =>
    cases e
    have proper := leads.proper
    have given : answer? { request, delivery, stage := .ended (.ok p.state), events } =
        some (Call.outcome events) := rfl
    rw [given]
    rcases leads.settled term with
      ⟨state, fragments, r, none_, rfl⟩ | ⟨state, fragments, fault, none_, rfl⟩
    · have outcome :
          Call.outcome (fragments.map (.response · false) ++ [.response r true]) = .ok r := by
        rw [Call.outcome, find?_fragments fragments rfl]
      rw [state, outcome]
      exact ⟨.done none_ rfl rfl (given.trans (congrArg some outcome)), by simp⟩
    · have outcome :
          Call.outcome (fragments.map (.response · false) ++ [.fault fault]) = .error fault := by
        rw [Call.outcome, find?_fragments fragments rfl]
      rw [state, outcome]
      refine ⟨.failed none_ rfl rfl (given.trans (congrArg some outcome)), ?_⟩
      rintro ⟨⟩
      rcases proper (.fault (.binding .noOutcome)) (by simp) with server | other
      · cases server
      · exact other rfl

end Call

/-- Whatever the pool is like, and whatever else happens to the client, a call that is over has one
outcome, which it gives in each way exactly once, or no connection could be had for it. Whoever
waits for its answer is never told that there is no outcome. -/
theorem one_outcome {c : Client} (pooled : ∀ i ∈ c.pool.available, i.connection.Reachable)
    (request : Request) (delivery : Delivery) {inputs : List Client.Input}
    (unopened : ∀ number fault, .connected number (.error fault) ∈ inputs →
      fault.kind = .unresolved ∨ fault.kind = .connect) :
    ∃ call, ((c.make request delivery).run inputs).calls[c.calls.length]? = some call ∧
      call.request = request ∧ call.delivery = delivery ∧
        ∀ result, call.result? = some result →
          call.Outcome result ∧ call.answer? ≠ some (.error (.binding .noOutcome)) := by
  have transfer (fault : Fault) (h : fault.IsTransfer) : fault ≠ .binding .noOutcome := by
    rintro rfl
    cases h.1
  have made := Client.serves_make (U := Fault.IsUnserved) transfer
    (fun i m => ⟨pooled i m, by simp, by simp⟩) (.inl rfl) request delivery
  obtain ⟨call, here, same, way, ok⟩ :=
    made.run transfer fun m fault mem => .inr (unopened m fault mem)
  exact ⟨call, here, same, way, fun result e => ok.outcome e⟩

/-- A call is answered in two pieces while another one cannot connect. -/
theorem one_outcome_pong :
    let c : Client := { pool := homePool }
    let inputs : List Client.Input :=
      [.connected 0 (.ok home), .completed 0 (.wrote 5), .made .ping .perFragment,
        .connected 1 (.error (.connect home.text "refused")), .completed 0 .flushed,
        .completed 0 (.received [0, 0, 0]), .completed 0 (.received [1, Tag.pingResp.byte])]
    (∀ i ∈ c.pool.available, i.connection.Reachable) ∧
      (∀ number fault, .connected number (.error fault) ∈ inputs →
        fault.kind = .unresolved ∨ fault.kind = .connect) ∧
      ∃ call, ((c.make .ping .merged).run inputs).calls[0]? = some call ∧
        call.events = [.response .pong true] ∧ call.Outcome (.ok .done) := by
  intro c inputs
  have pooled : ∀ i ∈ c.pool.available, i.connection.Reachable := by simp [c, homePool]
  have unopened : ∀ number fault, .connected number (.error fault) ∈ inputs →
      fault.kind = .unresolved ∨ fault.kind = .connect := by simp [inputs, Fault.kind]
  obtain ⟨call, here, _, _, outcome⟩ := one_outcome pooled .ping .merged unopened
  have told : (((c.make .ping .merged).run inputs).calls[0]?).map Call.events =
      some [.response .pong true] := by decide +kernel
  have ended : (((c.make .ping .merged).run inputs).calls[0]?).bind Call.result? =
      some (.ok .done) := by decide +kernel
  rw [show ((c.make .ping .merged).run inputs).calls[0]? = some call from here] at told ended
  exact ⟨pooled, unopened, call, here, Option.some.inj told, (outcome _ ended).1⟩

end StoreClient
