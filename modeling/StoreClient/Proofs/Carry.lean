import Mathlib
import StoreClient.Proofs.Reachable
import StoreClient.Proofs.Reception

/-!
# Carrying an operation to its outcome

An operation that is carried over a connection comes to what it makes of the frames of the whole
input: how the input is cut into reads, how much of the request each write accepts and how long a
read takes make no difference (`carry_eq_reception`).

While the answer is waited for, the frames still to come are those that the decoder finds in the
rest of the input. That each read leaves it so is `agrees_receiving`, by induction on the answers of
the transport; the frames of one read are taken by `agrees_drain`. Before that, `agrees_writing`
follows the request out.
-/

namespace StoreClient

open Operation (Event Reception)

namespace Simulation

/-! ### Carrying on -/

section carryFrom

variable {σ : Type} [Line σ] {limits : Limits} {steps : Nat} {patience : Patience}
  {turn : Exchange.Turn} {line : σ} {heard : List Event}

/-- An exchange that has ended asks for nothing more. -/
lemma carryFrom_ended {e : Exchange.Ended} (progress : turn.progress = .ended e) :
    carryFrom limits steps patience turn line heard =
      { connection := e.connection
        operation := e.operation
        line
        events := heard ++ turn.events
        result := some e.result } := by
  unfold carryFrom
  simp only [progress]

/-- An exchange goes on with what the line gives it in time. -/
lemma carryFrom_given {x : Exchange} {completion : Completion} {patience' : Patience} {line' : σ}
    (ask : Line.ask line x.connection.readCapacity x.await patience =
      .given completion patience' line') :
    carryFrom limits (steps + 1) patience { progress := .waiting x } line heard =
      carryFrom limits steps patience' (x.resume completion) line' heard := by
  rw [carryFrom]
  simp only [ask, List.append_nil]

/-- An exchange is cut off where the line does not answer in time. -/
lemma carryFrom_overdue {x : Exchange} {line' : σ}
    (ask : Line.ask line x.connection.readCapacity x.await patience = .overdue line') :
    carryFrom limits (steps + 1) patience { progress := .waiting x } line heard =
      cutOff limits x line' heard := by
  rw [carryFrom]
  simp only [ask, List.append_nil]

/-- What the listener is told in a turn might as well have been told before. -/
lemma carryFrom_events (turn : Exchange.Turn) :
    carryFrom limits steps patience turn line heard =
      carryFrom limits steps patience { progress := turn.progress } line
        (heard ++ turn.events) := by
  unfold carryFrom
  simp only [List.append_nil]

end carryFrom

/-- A drive has come to what becomes of an operation that receives, whose listener had been told
`heard` before and whose connection held the error `error` of the server. -/
structure Driven.Agrees {σ : Type} (d : Driven σ) (error : Option ServerError) (heard : List Event)
    (r : Reception) : Prop where
  operation : d.operation = r.operation
  events : d.events = heard ++ r.events
  result : d.result = r.result
  lastServerError : d.connection.lastServerError = r.refusal.or error

/-- What the listener is told first is part of what it is told. -/
lemma Driven.Agrees.hearing {σ : Type} {d : Driven σ} {error : Option ServerError}
    {heard told : List Event} {r : Reception} (h : d.Agrees error (heard ++ told) r) :
    d.Agrees error heard { r with events := told ++ r.events } :=
  ⟨h.operation, by rw [h.events, List.append_assoc], h.result, h.lastServerError⟩

section agrees

variable {σ : Type} [Line σ] {limits : Limits} {steps : Nat} {patience : Patience} {line : σ}

/-- An exchange that meets a fault fails its operation with it. -/
lemma agrees_finish_error (c : Connection) (o : Operation) (heard events : List Event)
    (fault : Fault) :
    (carryFrom limits steps patience (Exchange.finish c o events (.error fault)) line heard).Agrees
      c.lastServerError (heard ++ events) (o.receive [] (some fault)) := by
  rw [carryFrom_ended rfl]
  refine ⟨rfl, (List.append_assoc ..).symm, rfl, ?_⟩
  dsimp only
  split <;> rfl

/-- An exchange that meets a fault before its listener has been told anything in this turn. -/
lemma agrees_lost (c : Connection) (o : Operation) (heard : List Event) (fault : Fault) :
    (carryFrom limits steps patience (Exchange.finish c o [] (.error fault)) line heard).Agrees
      c.lastServerError heard (o.receive [] (some fault)) := by
  have ends : (carryFrom limits steps patience _ line heard).Agrees _ _ _ :=
    agrees_finish_error c o heard [] fault
  rwa [List.append_nil] at ends

/-- An exchange whose operation has its outcome ends with it. -/
lemma agrees_finish_ok (c : Connection) (o : Operation) (heard events told : List Event)
    {refusal error : Option ServerError} (last : c.lastServerError = refusal.or error) :
    (carryFrom limits steps patience (Exchange.finish c o (events ++ told) (.ok ())) line
      heard).Agrees error (heard ++ events)
      { operation := o, events := told, settled := true, refusal } := by
  rw [carryFrom_ended rfl]
  refine ⟨rfl, (List.append_assoc ..).symm, rfl, ?_⟩
  rw [← last]
  dsimp only
  split <;> rfl

/-- The frames of one read are taken in turn, and then what comes is what comes behind them. -/
lemma agrees_drain {c : Connection} {heard : List Event} {later : List Frame}
    {behind : Option Fault}
    (rest : ∀ o events,
      (carryFrom limits steps patience (Exchange.drain c o events []) line heard).Agrees
        c.lastServerError (heard ++ events) (o.receive later behind))
    (o : Operation) (events : List Event) (frames : List Frame) :
    (carryFrom limits steps patience (Exchange.drain c o events frames) line heard).Agrees
      c.lastServerError (heard ++ events) (o.receive (frames ++ later) behind) := by
  induction frames generalizing o events with
  | nil => exact rest o events
  | cons frame frames ih =>
    simp only [Exchange.drain, List.cons_append, Operation.receive]
    cases (o.onFrame frame).result with
    | error fault =>
      have failed : (carryFrom limits steps patience _ line heard).Agrees _ _ _ :=
        agrees_finish_error { c with ready := frames } (o.onFrame frame).operation heard
          (events ++ (o.onFrame frame).events) fault
      rw [← List.append_assoc] at failed
      exact failed.hearing
    | ok progress =>
      cases progress with
      | more =>
        have more := ih (o.onFrame frame).operation (events ++ (o.onFrame frame).events)
        rw [← List.append_assoc] at more
        exact more.hearing
      | done => exact agrees_finish_ok { c with ready := frames } _ _ _ _ rfl
      | failed error =>
        exact agrees_finish_ok { c with ready := frames, lastServerError := some error } _ _ _ _ rfl

end agrees

/-! ### Carrying an operation over a script -/

section script

variable {script : Script} {x : Exchange} {steps : Nat} {heard : List Event}

/-- A read has room for a byte at least. -/
lemma readCapacity_pos (c : Connection) : 0 < c.readCapacity := by
  unfold Connection.readCapacity
  split <;> decide

/-- Where the frames of a read are used up, the fault behind them comes next. -/
lemma agrees_drain_fault {c : Connection} {fault : Fault} (deferred : c.deferred = some fault)
    (o : Operation) (events : List Event) :
    (carryFrom {} steps none (Exchange.drain c o events []) script heard).Agrees c.lastServerError
      (heard ++ events) (o.receive [] (some fault)) := by
  simp only [Exchange.drain, deferred]
  exact agrees_finish_error { c with ready := [], deferred := none } o heard events fault

/-- Where the frames of a read are used up and there is no fault, the exchange waits for more. -/
lemma agrees_drain_waiting {c : Connection} {r : Reception} (deferred : c.deferred = none)
    {o : Operation} {events : List Event}
    (waits :
      (carryFrom {} steps none
        { progress := .waiting
            { connection := { c with ready := [], deferred := none }
              operation := o
              phase := .receiving } }
        script (heard ++ events)).Agrees c.lastServerError (heard ++ events) r) :
    (carryFrom {} steps none (Exchange.drain c o events []) script heard).Agrees c.lastServerError
      (heard ++ events) r := by
  simp only [Exchange.drain, deferred]
  rw [carryFrom_events]
  exact waits

/-- The frames of a chunk are taken, and then what comes is a fault behind them or else what the rest
of the input holds. -/
lemma agrees_chunk {c : Connection} (deferred : c.deferred = none) (chunk : Bytes) (o : Operation)
    (waits : ∀ {x : Exchange} {heard : List Event}, x.phase = .receiving →
      x.connection.ready = [] → x.connection.deferred = none →
      (carryFrom {} steps none { progress := .waiting x } script heard).Agrees
        x.connection.lastServerError heard
        (x.operation.receive (x.connection.decoder.feed script.input.bytes).frames
          ((x.connection.decoder.feed script.input.bytes).fault.or script.input.ending))) :
    (carryFrom {} steps none
      (Exchange.drain (c.receive chunk) o [] (c.decoder.feed chunk).frames) script heard).Agrees
      c.lastServerError heard
      (o.receive (c.decoder.feed (chunk ++ script.input.bytes)).frames
        ((c.decoder.feed (chunk ++ script.input.bytes)).fault.or script.input.ending)) := by
  cases fed : c.decoder.feed chunk with
  | mk decoder frames fault =>
    cases fault with
    | some fault =>
      have held : (c.receive chunk).deferred = some fault := by
        simp only [Connection.receive, fed, Option.some_or]
      have taken : (carryFrom {} steps none (Exchange.drain (c.receive chunk) o [] frames) script
          heard).Agrees _ _ _ :=
        agrees_drain (agrees_drain_fault held) o [] frames
      rw [List.append_nil, List.append_nil] at taken
      rw [Decoder.feed_append_of_fault (by rw [fed]), fed, Option.some_or]
      exact taken
    | none =>
      have held : (c.receive chunk).deferred = none := by
        simp only [Connection.receive, fed, deferred, Option.none_or]
      have next : (c.receive chunk).decoder = decoder := by
        simp only [Connection.receive, fed]
      have later : ∀ o events,
          (carryFrom {} steps none (Exchange.drain (c.receive chunk) o events []) script
            heard).Agrees (c.receive chunk).lastServerError (heard ++ events)
            (o.receive (decoder.feed script.input.bytes).frames
              ((decoder.feed script.input.bytes).fault.or script.input.ending)) := by
        intro o events
        rw [← next]
        exact agrees_drain_waiting held (waits rfl rfl rfl)
      have taken : (carryFrom {} steps none (Exchange.drain (c.receive chunk) o [] frames) script
          heard).Agrees _ _ _ :=
        agrees_drain later o [] frames
      rw [List.append_nil] at taken
      rw [Decoder.feed_append fed]
      exact taken

/-- A read that comes to something answers an exchange that waits for its answer. -/
lemma ask_read (asks : x.await = .read) {capacity : Nat} {completion : Completion}
    {rest : List ReadStep}
    (read : Script.readInput capacity script.reads none = (some (completion, none), rest)) :
    Line.ask script capacity x.await none = .given completion none { script with reads := rest } := by
  rw [asks]
  simp only [Line.ask, Script.ask, read]

/-- An exchange that is given bytes takes their frames. -/
lemma resume_received (phase : x.phase = .receiving) (ready : x.connection.ready = [])
    {chunk : Bytes} (some_ : chunk ≠ []) :
    x.resume (.received chunk) =
      Exchange.drain (x.connection.receive chunk) x.operation []
        (x.connection.decoder.feed chunk).frames := by
  cases chunk with
  | nil => exact absurd rfl some_
  | cons b chunk =>
    simp only [Exchange.resume, phase, Connection.afterReading]
    simp [Connection.receive, ready]

/-- While the answer is waited for, the frames to come are those of the rest of the input. -/
lemma agrees_receiving (enough : Script.readCount script.reads < steps)
    (phase : x.phase = .receiving) (ready : x.connection.ready = [])
    (deferred : x.connection.deferred = none) :
    (carryFrom {} steps none { progress := .waiting x } script heard).Agrees
      x.connection.lastServerError heard
      (x.operation.receive (x.connection.decoder.feed script.input.bytes).frames
        ((x.connection.decoder.feed script.input.bytes).fault.or script.input.ending)) := by
  have asks : x.await = .read := by simp only [Exchange.await, phase]
  -- Each read that gives something leaves fewer for the rest of the input.
  induction steps generalizing script x heard with
  | zero => omega
  | succ steps ih =>
    unfold Script.input
    cases Script.reading (readCapacity_pos x.connection) script.reads with
    | @given chunk rest read some_ whole less =>
      have fewer : Script.readCount rest < steps :=
        Nat.lt_of_lt_of_le less (Nat.le_of_lt_succ enough)
      rw [carryFrom_given (ask_read asks read), resume_received phase ready some_, whole]
      refine agrees_chunk deferred chunk x.operation ?_
      intro y heard phase' ready' deferred'
      exact ih fewer phase' ready' deferred' (by simp only [Exchange.await, phase'])
    | @ended completion rest fault read whole lost =>
      have resumed : x.resume completion =
          Exchange.finish x.connection.markBroken x.operation [] (.error fault) := by
        simp only [Exchange.resume, phase, lost]
      rw [carryFrom_given (ask_read asks read), resumed, whole, Decoder.feed_nil]
      exact agrees_lost x.connection.markBroken x.operation heard fault
    | @stalled rest read whole =>
      have ask : Line.ask script x.connection.readCapacity x.await none =
          .overdue { script with reads := rest } := by
        rw [asks]
        simp only [Line.ask, Script.ask, read]
      rw [carryFrom_overdue ask, whole, Decoder.feed_nil]
      exact ⟨rfl, (List.append_nil heard).symm, rfl, rfl⟩

/-- A request that cannot be sent breaks the connection. -/
lemma resume_failed {sending : Sending} (phase : x.phase = .sending sending) (cause : String) :
    x.resume (.failed cause) =
      Exchange.finish x.connection.markBroken x.operation [] (.error (.write cause)) := by
  cases sending <;>
    simp only [Exchange.resume, phase, Sending.resume, Connection.afterSending]

/-- Once the last byte of the request is taken, flushing it may fail, and then the answer comes in.
-/
lemma agrees_flushing (enough : Script.readCount script.reads + 1 < steps)
    (phase : x.phase = .sending .flushing) (inStep : x.connection.InStep) :
    (carryFrom {} steps none { progress := .waiting x } script heard).Agrees
      x.connection.lastServerError heard
      (script.after script.flushes.head?.join x.connection.decoder.limits x.operation) := by
  have asks : x.await = .flush := by simp only [Exchange.await, phase, Sending.await]
  cases steps with
  | zero => omega
  | succ steps =>
    have enough' : Script.readCount script.reads < steps := Nat.lt_of_succ_lt_succ enough
    have answered : ∀ flushes,
        (carryFrom {} steps none (x.resume .flushed) { script with flushes } heard).Agrees
          x.connection.lastServerError heard
          (script.after none x.connection.decoder.limits x.operation) := by
      intro flushes
      have resumed : x.resume .flushed = Exchange.drain x.connection x.operation [] [] := by
        simp only [Exchange.resume, phase, Sending.resume, Connection.afterSending, inStep.ready]
      obtain ⟨frames, fault⟩ := Decoder.feed_eq_split inStep.idle script.input.bytes
      simp only [Script.after, ← frames, ← fault]
      rw [resumed]
      have waits : (carryFrom {} steps none (Exchange.drain x.connection x.operation [] [])
          { script with flushes } heard).Agrees _ (heard ++ []) _ :=
        agrees_drain_waiting inStep.deferred (agrees_receiving enough' rfl rfl rfl)
      rwa [List.append_nil] at waits
    cases flushes : script.flushes with
    | nil =>
      have ask : Line.ask script x.connection.readCapacity x.await none =
          .given .flushed none script := by
        rw [asks]
        simp only [Line.ask, Script.ask, flushes]
      rw [carryFrom_given ask]
      exact answered script.flushes
    | cons flush later =>
      cases flush with
      | none =>
        have ask : Line.ask script x.connection.readCapacity x.await none =
            .given .flushed none { script with flushes := later } := by
          rw [asks]
          simp only [Line.ask, Script.ask, flushes]
        rw [carryFrom_given ask]
        exact answered later
      | some cause =>
        have ask : Line.ask script x.connection.readCapacity x.await none =
            .given (.failed cause) none { script with flushes := later } := by
          rw [asks]
          simp only [Line.ask, Script.ask, flushes]
        rw [carryFrom_given ask, resume_failed phase]
        exact agrees_lost x.connection.markBroken x.operation heard (.write cause)

/-- Once a write has taken all that was left of the request, it is flushed. -/
lemma agrees_written {left : Bytes} (enough : Script.readCount script.reads + 1 < steps)
    (phase : x.phase = .sending (.writing left)) (more : left ≠ []) (inStep : x.connection.InStep) :
    (carryFrom {} steps none (x.resume (.wrote left.length)) script heard).Agrees
      x.connection.lastServerError heard
      (script.after script.flushes.head?.join x.connection.decoder.limits x.operation) := by
  have resumed : x.resume (.wrote left.length) =
      { progress := .waiting { x with phase := .sending .flushing } } := by
    simp [Exchange.resume, phase, Sending.resume, more]
  rw [resumed]
  exact agrees_flushing enough rfl inStep

/-- Until the request is written, it may be lost, and otherwise it is flushed. -/
lemma agrees_writing {left : Bytes}
    (enough : left.length + Script.readCount script.reads + 1 < steps)
    (phase : x.phase = .sending (.writing left)) (more : left ≠ []) (inStep : x.connection.InStep) :
    (carryFrom {} steps none { progress := .waiting x } script heard).Agrees
      x.connection.lastServerError heard
      (script.reception left.length x.connection.decoder.limits x.operation) := by
  have asks : x.await = .write left := by simp only [Exchange.await, phase, Sending.await]
  obtain ⟨steps, rfl⟩ : ∃ n, steps = n + 1 := Nat.exists_eq_add_one_of_ne_zero (by omega)
  have some_ : 0 < left.length := List.length_pos_iff.2 more
  have enough' : Script.readCount script.reads + 1 < steps := by omega
  -- Each write that takes something leaves less of the request for the rest of the writes.
  induction writes : script.writes generalizing script x steps heard left with
  | nil =>
    have ask : Line.ask script x.connection.readCapacity x.await none =
        .given (.wrote left.length) none { script with written := script.written ++ left } := by
      rw [asks]
      simp only [Line.ask, Script.ask, writes]
    rw [carryFrom_given ask]
    simp only [Script.reception, Script.sendFailure?, writes, Script.writeFailure?, Option.none_or]
    exact agrees_written enough' phase more inStep
  | cons write later ih =>
    cases write with
    | accept most =>
      have ask : Line.ask script x.connection.readCapacity x.await none =
          .given (.wrote (min most left.length)) none
            { script with writes := later, written := script.written ++ left.take most } := by
        rw [asks]
        simp only [Line.ask, Script.ask, writes]
      rw [carryFrom_given ask]
      simp only [Script.reception, Script.sendFailure?, writes, Script.writeFailure?]
      by_cases zero : most = 0
      · subst zero
        have resumed : x.resume (.wrote 0) =
            Exchange.finish x.connection.markBroken x.operation [] (.error (.write writeZero)) := by
          simp only [Exchange.resume, phase, Sending.resume, Connection.afterSending, if_true]
        rw [Nat.zero_min, resumed, if_pos rfl]
        exact agrees_lost x.connection.markBroken x.operation heard (.write writeZero)
      · rw [if_neg zero]
        by_cases all : left.length ≤ most
        · rw [if_pos all, Nat.min_eq_right all]
          exact agrees_written enough' phase more inStep
        · have resumed : x.resume (.wrote most) =
              { progress :=
                  .waiting { x with phase := .sending (.writing (left.drop most)) } } := by
            simp only [Exchange.resume, phase, Sending.resume, if_neg zero, if_neg all]
          have fewer : (left.drop most).length = left.length - most := List.length_drop
          rw [if_neg all, Nat.min_eq_left (Nat.le_of_not_le all), resumed, ← fewer]
          obtain ⟨steps, rfl⟩ : ∃ n, steps = n + 1 := Nat.exists_eq_add_one_of_ne_zero (by omega)
          have some_left : 0 < (left.drop most).length := by omega
          have sum : (left.drop most).length + Script.readCount script.reads + 1 < steps + 1 := by
            omega
          have room : Script.readCount script.reads + 1 < steps := by omega
          apply ih
          · rfl
          · exact List.ne_nil_of_length_pos some_left
          · exact inStep
          · rfl
          · exact sum
          · exact some_left
          · exact room
          · rfl
    | failed cause =>
      have ask : Line.ask script x.connection.readCapacity x.await none =
          .given (.failed cause) none { script with writes := later } := by
        rw [asks]
        simp only [Line.ask, Script.ask, writes]
      rw [carryFrom_given ask, resume_failed phase]
      simp only [Script.reception, Script.sendFailure?, writes, Script.writeFailure?,
        Option.some_or]
      exact agrees_lost x.connection.markBroken x.operation heard (.write cause)

/-- Over a connection in step, a new operation whose request fits comes to the reception of the
script. -/
lemma agrees_carry {c : Connection} (usable : c.isUsable = true)
    (unbuffered : c.hasBufferedInput = false) (inStep : c.InStep) {o : Operation}
    (fresh : o.state = .encoded) (fits : o.request.frame.Fits) (script : Script) :
    (carry c o script {}).Agrees c.lastServerError []
      (script.reception o.request.frame.size c.decoder.limits o.beginSend.operation) := by
  have open_ : o.isTerminal = false := by
    simp [Operation.isTerminal, fresh, Operation.State.isTerminal]
  have begun : o.beginSend =
      { operation := o.beginSend.operation, result := .ok o.request.frame } := by
    simp [Operation.beginSend, fresh]
  have encoded : o.request.frame.encode = .ok o.request.frame.bytes :=
    Frame.encode_eq_ok_iff.2 ⟨fits, rfl⟩
  have started : Exchange.start c o =
      { progress := .waiting
          { connection := { c with inFlight := true }
            operation := o.beginSend.operation
            phase := .sending (.writing o.request.frame.bytes) } } := by
    simp only [Exchange.start, open_, usable, unbuffered, Bool.not_true, Bool.false_eq_true,
      if_false]
    rw [begun]
    simp only [Except.bind, encoded]
  have inStep' : ({ c with inFlight := true } : Connection).InStep :=
    ⟨inStep.ready, inStep.idle, inStep.deferred⟩
  unfold carry
  rw [started]
  simp only [carrySteps, sendingSteps, Script.reads_eq]
  rw [← Frame.length_bytes]
  exact agrees_writing (by omega) rfl (Frame.bytes_ne_nil _) inStep'

end script

/-- A new operation whose request fits, carried over a usable connection that shows no input: what
the listener is told, what the caller gets and the error of the server that is kept are those of the
reception of the script. Of a request that cannot be sent the listener is told nothing else. Over a
script that never stalls the caller gets the state of the operation. Scripts on which the sending
comes to the same and that give the same bytes and ending, however they are cut, come to the same.
-/
theorem carry_eq_reception {c : Connection} (reachable : c.Reachable) (usable : c.isUsable = true)
    (unbuffered : c.hasBufferedInput = false) (request : Request) (delivery : Delivery)
    (fits : request.encode.frame.Fits) (script : Script) :
    let o := Operation.ofRequest request delivery
    let size := request.encode.frame.size
    let driven := carry c o script {}
    let expected := script.reception size c.decoder.limits o.beginSend.operation
    driven.operation = expected.operation ∧
      driven.events = expected.events ∧
      driven.result = expected.result ∧
      driven.connection.lastServerError = expected.refusal.or c.lastServerError ∧
      expected.refusal = driven.events.findSome? Event.serverError? ∧
      (∀ cause, script.sendFailure? size = some cause → driven.events = [.fault (.write cause)]) ∧
      (.stall ∉ script.reads → driven.result = some (.ok driven.operation.state)) ∧
      ∀ script' : Script, script'.sendFailure? size = script.sendFailure? size →
        script'.input = script.input →
        let driven' := carry c o script' {}
        driven'.operation = driven.operation ∧
          driven'.events = driven.events ∧
          driven'.result = driven.result ∧
          driven'.connection.lastServerError = driven.connection.lastServerError := by
  intro o size driven expected
  have inStep := reachable.inStep usable unbuffered
  have agrees : driven.Agrees c.lastServerError [] expected :=
    agrees_carry usable unbuffered inStep rfl fits script
  have aw : o.beginSend.operation.Awaiting :=
    Exchange.awaiting_begun rfl rfl
  have events : driven.events = expected.events := agrees.events
  refine ⟨agrees.operation, events, agrees.result, agrees.lastServerError, ?_, ?_, ?_, ?_⟩
  · rw [events]
    exact script.refusal_reception size c.decoder.limits aw
  · intro cause lost
    rw [events]
    show (script.after (script.sendFailure? size) c.decoder.limits o.beginSend.operation).events = _
    rw [lost]
    show (o.beginSend.operation.fail (.write cause)).events = _
    rw [Operation.fail_of_open aw.isTerminal aw.hears]
  · intro flows
    have settled : expected.settled = true :=
      Script.settled_reception flows size c.decoder.limits o.beginSend.operation
    rw [agrees.result, agrees.operation, Reception.result, if_pos settled]
  · intro script' sent same driven'
    have agrees' : driven'.Agrees c.lastServerError []
        (script'.reception size c.decoder.limits o.beginSend.operation) :=
      agrees_carry usable unbuffered inStep rfl fits script'
    have equal : script'.reception size c.decoder.limits o.beginSend.operation = expected := by
      simp only [expected, Script.reception, Script.after, sent, same]
    rw [equal] at agrees'
    exact ⟨agrees'.operation.trans agrees.operation.symm, agrees'.events.trans agrees.events.symm,
      agrees'.result.trans agrees.result.symm,
      agrees'.lastServerError.trans agrees.lastServerError.symm⟩

/-- A ping over a new connection comes to the same whether its answer comes in three reads, between
which time passes, or in one. -/
theorem carry_eq_reception_ping :
    let c : Connection := .ofStream 1 ⟨"a", 1⟩ Frame.defaultMaxLength
    let o := Operation.ofRequest .ping .merged
    let cut : Script :=
      { reads := [.data [0, 0], .delay 5, .data [0], .data [1, 2]], writes := [.accept 3] }
    let whole : Script := { reads := [.data [0, 0, 0, 1, 2]] }
    let size := Request.ping.encode.frame.size
    let expected := cut.reception size c.decoder.limits o.beginSend.operation
    expected.events = [.response .pong true] ∧
      expected.refusal = none ∧
      (carry c o cut {}).result = some (.ok .done) ∧
      (carry c o whole {}).events = (carry c o cut {}).events := by
  intro c o cut whole size expected
  obtain ⟨_, events, _, _, refusal, _, _, others⟩ :=
    carry_eq_reception (.opened 1 ⟨"a", 1⟩ Frame.defaultMaxLength) rfl rfl .ping .merged
      (by decide) cut
  have told : (carry c o cut {}).events = [.response .pong true] := by decide +kernel
  obtain ⟨_, same, _, _⟩ := others whole (by decide) (by rfl)
  refine ⟨events.symm.trans told, ?_, by decide +kernel, same⟩
  exact refusal.trans (congrArg (List.findSome? Event.serverError?) told)

end Simulation

end StoreClient
