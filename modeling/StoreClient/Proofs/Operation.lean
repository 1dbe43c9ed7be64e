import Mathlib
import StoreClient.Operation
import StoreClient.Proofs.Accumulator

/-!
# Outcomes of operations

Whatever is called on an operation, and in whatever order, its listener hears fragments and then at
most one outcome. `perform` makes any one call and `run` any number of them; `Advance` says what a
call may do to an operation whose outcome is open, and `perform_advance` that every call does no
more. The headline is `exactly_one_outcome`.

What a frame does is said once, by `Taken` and `onFrame_taken`; that the value of a last fragment is
always ready for the listener is `Accumulator.push_ready`.
-/

namespace StoreClient

namespace Operation

/-! ### Calls -/

/-- A call on an operation. -/
inductive Call where
  | beginSend
  | onFrame (frame : Frame)
  | fail (fault : Fault)

/-- What a call gives its caller. -/
inductive Reply where
  | begun (result : Except Fault Frame)
  | taken (result : Except Fault Progress)
  | failed (accepted : Bool)

/-- Makes a call. -/
def perform (o : Operation) : Call → Step Reply
  | .beginSend =>
    let step := o.beginSend
    { operation := step.operation, events := step.events, result := .begun step.result }
  | .onFrame frame =>
    let step := o.onFrame frame
    { operation := step.operation, events := step.events, result := .taken step.result }
  | .fail fault =>
    let step := o.fail fault
    { operation := step.operation, events := step.events, result := .failed step.result }

/-- Makes calls in turn: the operation after them and everything the listener has been told. -/
def run : Operation → List Call → Step Unit
  | o, [] => { operation := o, result := () }
  | o, call :: calls =>
    let step := o.perform call
    let rest := run step.operation calls
    { rest with events := step.events ++ rest.events }

/-- The reply of an operation whose outcome is settled. -/
def Call.refusal : Call → Reply
  | .beginSend => .begun (.error .alreadyCompleted)
  | .onFrame _ => .taken (.error .alreadyCompleted)
  | .fail _ => .failed false

/-- How far a state is from the beginning. -/
def State.rank : State → Nat
  | encoded => 0
  | sent => 1
  | receiving => 2
  | streaming => 3
  | done | failed => 4

/-- The listener is there exactly as long as the outcome is open. -/
def Attended (o : Operation) : Prop := o.listening = !o.isTerminal

/-- What a call may make of an operation whose outcome is open, and what the listener is told. -/
inductive Advance (o : Operation) : Operation → List Event → Prop where
  /-- The outcome stays open and the listener hears nothing. -/
  | quiet {o'} :
    o'.isTerminal = false →
    o'.listening = true →
    o'.delivery = o.delivery →
    o.state.rank ≤ o'.state.rank →
    Advance o o' []
  /-- A fragment that is not the last is passed on. -/
  | fragment {o'} (r : Response) :
    o.delivery = .perFragment →
    o'.state = .streaming →
    o'.listening = true →
    o'.delivery = o.delivery →
    Advance o o' [.response r false]
  | done {o'} (r : Response) :
    o'.state = .done →
    o'.listening = false →
    o'.delivery = o.delivery →
    Advance o o' [.response r true]
  | failed {o'} (f : Fault) :
    o'.state = .failed →
    o'.listening = false →
    o'.delivery = o.delivery →
    Advance o o' [.fault f]

/-- What a listener has been told: fragments, of which there are none where the answer is delivered
merged, and behind them the outcome, if there is one yet. -/
def Account (delivery : Delivery) (told : List Event) (outcome : Option Event) : Prop :=
  ∃ fragments : List Response,
    told = fragments.map (.response · false) ++ outcome.toList ∧
    (∀ e ∈ outcome, e.isTerminal = true) ∧
    (delivery = .merged → fragments = [])

/-- What holds of an operation and of what its listener has been told, after any calls: the listener
is there as long as the outcome is open, and has heard of the outcome once it is settled. -/
structure Told (delivery : Delivery) (o : Operation) (told : List Event) : Prop where
  attended : o.Attended
  way : o.delivery = delivery
  account : ∃ outcome, Account delivery told outcome ∧ outcome.isSome = o.isTerminal

/-! ### Single calls -/

/-- A call on an operation whose outcome is settled changes nothing, tells nothing and is refused. -/
lemma perform_of_isTerminal {o : Operation} (term : o.isTerminal = true) (call : Call) :
    o.perform call = { operation := o, result := call.refusal } := by
  have notFresh : o.state ≠ .encoded := by
    intro e
    simp [isTerminal, e, State.isTerminal] at term
  cases call with
  | beginSend => simp [perform, beginSend, notFresh, term, Call.refusal]
  | onFrame frame => simp [perform, onFrame, term, Call.refusal]
  | fail fault => simp [perform, fail, term, Call.refusal]

/-- An operation that waits has no outcome. -/
lemma State.isTerminal_of_isWaiting {s : State} (wait : s.isWaiting = true) :
    s.isTerminal = false := by
  cases s <;> first | rfl | cases wait

/-- An operation that was begun waits until it has its outcome. -/
lemma State.isWaiting_of_open {s : State} (sent : s ≠ .encoded) (open_ : s.isTerminal = false) :
    s.isWaiting = true := by
  cases s with
  | encoded => exact absurd rfl sent
  | sent | receiving | streaming => rfl
  | done | failed => cases open_

/-- Before its outcome an operation comes no further than to stream. -/
lemma State.rank_le_streaming {s : State} (open_ : s.isTerminal = false) :
    s.rank ≤ streaming.rank := by
  cases s with
  | encoded | sent | receiving | streaming => decide
  | done | failed => cases open_

/-- No state is behind the outcomes. -/
lemma State.rank_le_four (s : State) : s.rank ≤ 4 := by cases s <;> decide

/-- An advance never goes back. -/
lemma Advance.rank_le {o o' : Operation} {events : List Event} (adv : Advance o o' events)
    (open_ : o.isTerminal = false) : o.state.rank ≤ o'.state.rank := by
  cases adv with
  | quiet _ _ _ up => exact up
  | fragment r _ e _ _ => exact e ▸ State.rank_le_streaming open_
  | done r e _ _ => exact e ▸ o.state.rank_le_four
  | failed f e _ _ => exact e ▸ o.state.rank_le_four

/-- The listener is there as long as the outcome is open. -/
lemma Attended.hears {o : Operation} (att : o.Attended) (open_ : o.isTerminal = false) :
    o.listening = true := by
  simpa [Attended, open_] using att

/-- After an advance the listener is there exactly as long as the outcome is open. -/
lemma Advance.attended {o o' : Operation} {events : List Event} (adv : Advance o o' events) :
    o'.Attended := by
  cases adv with
  | quiet open' hears _ _ => simp [Attended, open', hears]
  | fragment r _ st hears _ => simp [Attended, isTerminal, State.isTerminal, st, hears]
  | done r st deaf _ => simp [Attended, isTerminal, State.isTerminal, st, deaf]
  | failed f st deaf _ => simp [Attended, isTerminal, State.isTerminal, st, deaf]

/-- The listener hears of a response that is the last by exactly the calls that settle the outcome
so, and of a fault by exactly those that settle it as failed. -/
lemma Advance.outcome {o o' : Operation} {events : List Event} (adv : Advance o o' events)
    (open_ : o.isTerminal = false) :
    ((∃ r, .response r true ∈ events) ↔ o.state ≠ .done ∧ o'.state = .done) ∧
      ((∃ f, .fault f ∈ events) ↔ o.state ≠ .failed ∧ o'.state = .failed) := by
  have notDone : o.state ≠ .done := by
    intro e
    simp [isTerminal, e, State.isTerminal] at open_
  have notFailed : o.state ≠ .failed := by
    intro e
    simp [isTerminal, e, State.isTerminal] at open_
  cases adv with
  | quiet open' _ _ _ =>
    have notDone' : o'.state ≠ .done := by
      intro e
      simp [isTerminal, e, State.isTerminal] at open'
    have notFailed' : o'.state ≠ .failed := by
      intro e
      simp [isTerminal, e, State.isTerminal] at open'
    simp [notDone', notFailed']
  | fragment r _ e _ _ => simp [e]
  | done r e _ _ => simp [e, notDone]
  | failed f e _ _ => simp [e, notFailed]

/-- An advance keeps the listener's account in order. -/
lemma Advance.told {delivery : Delivery} {o o' : Operation} {told events : List Event}
    (adv : Advance o o' events) (open_ : o.isTerminal = false) (h : Told delivery o told) :
    Told delivery o' (told ++ events) := by
  obtain ⟨_, way, outcome, ⟨fragments, e, last, none_⟩, settled⟩ := h
  have unsettled : outcome = none := by simpa [open_] using settled
  subst unsettled
  refine ⟨adv.attended, ?_, ?_⟩
  · cases adv <;> simp_all
  · cases adv with
    | quiet open' _ _ _ => exact ⟨none, ⟨fragments, by simpa using e, last, none_⟩, by simp [open']⟩
    | fragment r each st _ _ =>
      have notMerged : delivery ≠ .merged := by simp [← way, each]
      refine ⟨none, ⟨fragments ++ [r], by simp [e], last, fun m => absurd m notMerged⟩, ?_⟩
      simp [isTerminal, st, State.isTerminal]
    | done r st _ _ =>
      refine ⟨some (.response r true), ⟨fragments, by simp [e], by simp [Event.isTerminal], none_⟩,
        ?_⟩
      simp [isTerminal, st, State.isTerminal]
    | failed f st _ _ =>
      refine ⟨some (.fault f), ⟨fragments, by simp [e], by simp [Event.isTerminal], none_⟩, ?_⟩
      simp [isTerminal, st, State.isTerminal]

/-- Failing an operation whose outcome is open tells its listener of the fault. -/
lemma fail_of_open {o : Operation} (open_ : o.isTerminal = false) (hears : o.listening = true)
    (fault : Fault) :
    o.fail fault =
      { operation := { o with state := .failed, listening := false }
        events := [.fault fault]
        result := true } := by
  simp [fail, open_, hears]

/-! ### Frames -/

/-- An operation that waits for its answer, with its listener there. -/
structure Awaiting (o : Operation) : Prop where
  waits : o.state.isWaiting = true
  hears : o.listening = true

/-- An operation that waits for its answer has no outcome. -/
lemma Awaiting.isTerminal {o : Operation} (aw : o.Awaiting) : o.isTerminal = false :=
  State.isTerminal_of_isWaiting aw.waits

/-- The operation with one more frame counted. -/
def counted (o : Operation) : Operation :=
  { o with
    frames := o.frames + 1
    state := if o.state = .sent then .receiving else o.state }

/-- Counting a frame settles nothing. -/
@[simp] lemma counted_isTerminal (o : Operation) : o.counted.isTerminal = o.isTerminal := by
  unfold counted isTerminal
  cases o.state <;> rfl

/-- A frame that is counted moves an operation on, if anywhere. -/
lemma rank_le_counted (o : Operation) : o.state.rank ≤ o.counted.state.rank := by
  show o.state.rank ≤ (if o.state = .sent then State.receiving else o.state).rank
  cases o.state <;> decide

/-- A frame that is counted leaves an operation waiting. -/
lemma Awaiting.counted {o : Operation} (aw : o.Awaiting) : o.counted.Awaiting := by
  refine ⟨?_, aw.hears⟩
  have waits := aw.waits
  show (if o.state = .sent then State.receiving else o.state).isWaiting = true
  cases st : o.state <;> simp_all [State.isWaiting]

/-- What a frame may bring about where it is waited for. -/
inductive Taken (o : Operation) (frame : Frame) : Step (Except Fault Progress) → Prop where
  /-- It cannot be read. -/
  | unread {cause} :
    o.kind.read frame = .error (.format cause) →
    Taken o frame { operation := o.counted, result := .error (.format cause) }
  /-- It is a fragment that cannot be taken. -/
  | rejected {r done accumulator cause} :
    o.kind.read frame = .ok (.fragment r done) →
    o.accumulator.push r done = (accumulator, .error (.format cause)) →
    Taken o frame
      { operation := { o.counted with accumulator }, result := .error (.format cause) }
  | refused {error} :
    o.kind.read frame = .ok (.refusal error) →
    Taken o frame
      { operation := { o.counted with state := .failed, listening := false }
        events := [.fault (.server error)]
        result := .ok (.failed error) }
  | fragment {r accumulator ready} :
    o.kind.read frame = .ok (.fragment r false) →
    o.accumulator.push r false = (accumulator, .ok ready) →
    Taken o frame
      { operation := { o.counted with accumulator, state := .streaming }
        events := ready.toList.map (.response · false)
        result := .ok .more }
  | last {r accumulator whole} :
    o.kind.read frame = .ok (.fragment r true) →
    o.accumulator.push r true = (accumulator, .ok (some whole)) →
    Taken o frame
      { operation := { o.counted with accumulator, state := .done, listening := false }
        events := [.response whole true]
        result := .ok .done }

/-- What an operation that waits makes of a frame, by what the frame says. -/
lemma onFrame_of_waiting {o : Operation} (waits : o.state.isWaiting = true) (frame : Frame) :
    o.onFrame frame =
      match o.kind.read frame with
      | .error fault => { operation := o.counted, result := .error fault }
      | .ok (.refusal error) =>
        { o.counted.fail (.server error) with result := .ok (.failed error) }
      | .ok (.fragment response done) => o.counted.onFragment response done := by
  have open_ : o.isTerminal = false := State.isTerminal_of_isWaiting waits
  unfold onFrame ResponseKind.read
  simp only [open_, waits, Bool.not_true, Bool.false_eq_true, if_false]
  cases frame.isError with
  | true => cases ServerError.decode frame.payload <;> rfl
  | false =>
    have same : ({ o with
      frames := o.frames + 1
      state := if o.state = .sent then .receiving else o.state } : Operation).kind = o.kind := rfl
    rw [same]
    cases o.kind.decode frame.tag frame.payload <;> rfl

/-- A frame that is waited for brings about no more than `Taken` says. -/
lemma Awaiting.onFrame_taken {o : Operation} (aw : o.Awaiting) (frame : Frame) :
    Taken o frame (o.onFrame frame) := by
  rw [onFrame_of_waiting aw.waits]
  cases e : o.kind.read frame with
  | error fault =>
    obtain ⟨cause, rfl⟩ := ResponseKind.read_error e
    exact .unread e
  | ok reading =>
    cases reading with
    | refusal error =>
      simp only [fail_of_open aw.counted.isTerminal aw.counted.hears]
      exact .refused e
    | fragment r done =>
      show Taken o frame (o.counted.onFragment r done)
      unfold onFragment
      generalize p : o.counted.accumulator.push r done = pushed
      obtain ⟨accumulator, ready⟩ := pushed
      cases ready with
      | error fault =>
        obtain ⟨cause, rfl⟩ := Accumulator.push_error p
        exact .rejected e p
      | ok ready =>
        have told (last : Bool) : ({ o.counted with accumulator } : Operation).deliver ready last =
            ready.toList.map (.response · last) := if_pos aw.hears
        cases done with
        | true =>
          cases ready with
          | none => simpa using Accumulator.push_ready p
          | some whole =>
            simp only [told, if_true, Option.toList_some, List.map_cons, List.map_nil]
            exact .last e p
        | false =>
          simp only [told, Bool.false_eq_true, if_false]
          exact .fragment e p

/-- A frame is refused, leaves the outcome open, passes something on or settles the outcome. -/
lemma onFrame_advance {o : Operation} (open_ : o.isTerminal = false) (hears : o.listening = true)
    (frame : Frame) : Advance o (o.onFrame frame).operation (o.onFrame frame).events := by
  have up := o.rank_le_counted
  have open' : o.counted.isTerminal = false := by simp [open_]
  cases waits : o.state.isWaiting with
  | false =>
    simp only [onFrame, open_, waits, Bool.not_false, Bool.false_eq_true, if_false, if_true]
    exact .quiet open_ hears rfl le_rfl
  | true =>
    have taken := Awaiting.onFrame_taken ⟨waits, hears⟩ frame
    generalize o.onFrame frame = step at taken
    cases taken with
    | unread _ => exact .quiet open' hears rfl up
    | @rejected r done accumulator _ _ p =>
      have way := o.accumulator.push_delivery r done
      rw [p] at way
      exact .quiet open' hears way up
    | refused _ => exact .failed _ rfl rfl rfl
    | @fragment r accumulator ready _ p =>
      have way := o.accumulator.push_delivery r false
      have here := Accumulator.push_ready p
      rw [p] at way
      -- Whether a fragment is passed on depends on the way of delivery alone.
      cases ready with
      | none => exact .quiet rfl hears way (State.rank_le_streaming open_)
      | some whole => exact .fragment whole (by simpa [delivery] using here) rfl hears way
    | @last r accumulator whole _ p =>
      have way := o.accumulator.push_delivery r true
      rw [p] at way
      exact .done whole rfl rfl way

/-- Frames that are taken in turn, each of them leaving more to come: the operation behind them and
what its listener has been told. -/
inductive Takes (o : Operation) : List Frame → Operation → List Event → Prop where
  | nil : Takes o [] o []
  | snoc {frames p heard frame p' events} :
    Takes o frames p heard →
    p.onFrame frame = { operation := p', events, result := .ok .more } →
    Takes o (frames ++ [frame]) p' (heard ++ events)

/-- Frames that leave more to come leave an operation waiting. -/
lemma Awaiting.takes {o p : Operation} {frames : List Frame} {heard : List Event} (aw : o.Awaiting)
    (tk : Takes o frames p heard) : p.Awaiting := by
  induction tk with
  | nil => exact aw
  | @snoc frames p heard frame p' events tk e ih =>
    have taken := ih.onFrame_taken frame
    rw [e] at taken
    cases taken with
    | fragment _ _ => exact ⟨rfl, ih.hears⟩

/-- Frames do not change the request. -/
lemma Takes.request {o p : Operation} {frames : List Frame} {heard : List Event} (aw : o.Awaiting)
    (tk : Takes o frames p heard) : p.request = o.request := by
  induction tk with
  | nil => rfl
  | @snoc frames p heard frame p' events tk e ih =>
    have taken := (aw.takes tk).onFrame_taken frame
    rw [e] at taken
    cases taken with
    | fragment _ _ => exact ih

/-! ### Calls whose outcome is open -/

/-- Every call on an operation whose outcome is open is an advance. -/
lemma perform_advance {o : Operation} (open_ : o.isTerminal = false) (hears : o.listening = true)
    (call : Call) : Advance o (o.perform call).operation (o.perform call).events := by
  cases call with
  | beginSend =>
    by_cases fresh : o.state = .encoded
    · simp only [perform, beginSend, if_pos fresh]
      exact .quiet rfl hears rfl (by simp [fresh, State.rank])
    · simp only [perform, beginSend, if_neg fresh, open_, Bool.false_eq_true, if_false]
      exact .quiet open_ hears rfl le_rfl
  | onFrame frame => exact onFrame_advance open_ hears frame
  | fail fault =>
    simp only [perform, fail_of_open open_ hears]
    exact .failed fault rfl rfl rfl

/-! ### Runs -/

/-- Every call keeps the listener's account in order. -/
lemma Told.perform {delivery : Delivery} {o : Operation} {told : List Event}
    (h : Told delivery o told) (call : Call) :
    Told delivery (o.perform call).operation (told ++ (o.perform call).events) := by
  cases term : o.isTerminal with
  | true =>
    rw [perform_of_isTerminal term]
    simpa using h
  | false => exact (perform_advance term (h.attended.hears term) call).told term h

/-- Any calls keep the listener's account in order. -/
lemma Told.run {delivery : Delivery} {o : Operation} {told : List Event}
    (h : Told delivery o told) (calls : List Call) :
    Told delivery (o.run calls).operation (told ++ (o.run calls).events) := by
  induction calls generalizing o told with
  | nil => simpa [Operation.run] using h
  | cons call calls ih => simpa [Operation.run] using ih (h.perform call)

/-- The listener of a new operation has heard nothing. -/
lemma told_ofRequest (request : Request) (delivery : Delivery) :
    Told delivery (ofRequest request delivery) [] :=
  ⟨rfl, rfl, none, ⟨[], rfl, by simp, fun _ => rfl⟩, rfl⟩

/-- What the listener has heard fits the state, whatever is called. -/
lemma told_run (request : Request) (delivery : Delivery) (calls : List Call) :
    Told delivery ((ofRequest request delivery).run calls).operation
      ((ofRequest request delivery).run calls).events := by
  simpa using (told_ofRequest request delivery).run calls

/-- Giving an operation up tells its listener of the closed connection where an answer is due, and
of nothing where none is. -/
lemma Attended.abandon {o : Operation} (att : o.Attended) :
    o.abandon = if o.state.isWaiting then [.fault .connectionClosed] else [] := by
  unfold Operation.abandon
  split
  · rename_i wait
    have open_ : o.isTerminal = false := State.isTerminal_of_isWaiting wait
    rw [fail_of_open open_ (att.hears open_)]
  · rfl

/-- Giving up an operation whose outcome is settled tells of nothing. -/
lemma abandon_of_isTerminal {o : Operation} (term : o.isTerminal = true) : o.abandon = [] := by
  unfold abandon
  split
  · rename_i wait
    exact absurd (State.isTerminal_of_isWaiting wait) (by simpa [isTerminal] using term)
  · rfl

/-- Giving up an operation that waits tells of the closed connection. -/
lemma Awaiting.abandon {o : Operation} (aw : o.Awaiting) :
    o.abandon = [.fault .connectionClosed] := by
  unfold Operation.abandon
  rw [if_pos aw.waits, fail_of_open aw.isTerminal aw.hears]

/-- Where an operation is given up, the account of its listener is complete: it ends with the outcome
unless the request was never sent. -/
lemma Told.abandon {delivery : Delivery} {o : Operation} {told : List Event}
    (h : Told delivery o told) :
    ∃ outcome, Account delivery (told ++ o.abandon) outcome ∧
      outcome.isSome = decide (o.state ≠ .encoded) := by
  obtain ⟨outcome, ⟨fragments, e, last, none_⟩, settled⟩ := h.account
  rw [h.attended.abandon]
  cases wait : o.state.isWaiting with
  | true =>
    have open_ : o.isTerminal = false := State.isTerminal_of_isWaiting wait
    have unsettled : outcome = none := by simpa [open_] using settled
    subst unsettled
    -- Nothing terminal was told before, so the closed connection is the outcome.
    refine ⟨some (.fault .connectionClosed),
      ⟨fragments, by simp [e], by simp [Event.isTerminal], none_⟩, ?_⟩
    cases st : o.state <;> simp_all [State.isWaiting]
  | false =>
    refine ⟨outcome, ⟨fragments, by simpa using e, last, none_⟩, ?_⟩
    rw [settled]
    unfold isTerminal
    cases st : o.state <;> simp_all [State.isWaiting, State.isTerminal]

/-- Whatever calls are made on an operation, in any order: its listener has been told of fragments
(of none where the answer is delivered merged) and behind them of at most one outcome, which is there
exactly when the operation is settled. Giving the operation up adds the closed connection where an
answer is due and nothing elsewhere. Any further call goes no step back, tells of the outcome exactly
when it settles the operation, and is refused without effect where that is settled already. -/
theorem exactly_one_outcome (request : Request) (delivery : Delivery) (calls : List Call) :
    let now := (ofRequest request delivery).run calls
    (∃ outcome, Account delivery now.events outcome ∧
      outcome.isSome = now.operation.isTerminal) ∧
    (∃ outcome, Account delivery (now.events ++ now.operation.abandon) outcome ∧
      outcome.isSome = decide (now.operation.state ≠ .encoded)) ∧
    now.operation.abandon =
      (if now.operation.state.isWaiting then [.fault .connectionClosed] else []) ∧
    ∀ call,
      let next := now.operation.perform call
      now.operation.state.rank ≤ next.operation.state.rank ∧
      ((∃ r, .response r true ∈ next.events) ↔
        now.operation.state ≠ .done ∧ next.operation.state = .done) ∧
      ((∃ f, .fault f ∈ next.events) ↔
        now.operation.state ≠ .failed ∧ next.operation.state = .failed) ∧
      (now.operation.isTerminal = true →
        next = { operation := now.operation, result := call.refusal }) := by
  intro now
  have told : Told delivery now.operation now.events := told_run request delivery calls
  refine ⟨told.account, told.abandon, told.attended.abandon, ?_⟩
  intro call next
  cases term : now.operation.isTerminal with
  | true =>
    have same : next = { operation := now.operation, result := call.refusal } :=
      perform_of_isTerminal term call
    simp only [same]
    refine ⟨le_rfl, ?_, ?_, fun _ => trivial⟩ <;> simp
  | false =>
    have adv := perform_advance term (told.attended.hears term) call
    obtain ⟨done, failed⟩ := adv.outcome term
    exact ⟨adv.rank_le term, done, failed, nofun⟩

end Operation

end StoreClient
