import StoreClient.Operation
import StoreClient.Transport

/-!
# Exchanges

An exchange carries one operation over one connection: it writes the request, reads until the
operation has its outcome, and leaves behind a connection that is either in step or never used
again. It waits only for the transport, and there it can be cut off: by its deadline, which fails
the operation and breaks the connection, or by its caller, who drops it and leaves the connection
marked as in flight.

Faults that are met on the way are told to the listener of the operation. The one thing that the
caller is told is that the operation had ended before.
-/

namespace StoreClient

open Operation (Event)

/-- Where an exchange waits. -/
inductive Exchange.Phase where
  | sending (sending : Sending)
  | receiving
  deriving DecidableEq, Repr

/-- An operation under way on a connection, waiting for the transport. -/
structure Exchange where
  connection : Connection
  operation : Operation
  phase : Exchange.Phase
  deriving DecidableEq, Repr

namespace Exchange

/-- What is waited for. -/
def await (x : Exchange) : Await :=
  match x.phase with
  | .sending sending => sending.await
  | .receiving => .read

/-- What an exchange leaves behind. -/
structure Ended where
  connection : Connection
  operation : Operation
  /-- The state of the operation, or that it had ended before. -/
  result : Except Fault Operation.State

/-- An exchange between two answers of the transport. -/
inductive Progress where
  | waiting (exchange : Exchange)
  | ended (ended : Ended)

/-- What one answer of the transport has brought about, and what the listener is told. -/
structure Turn where
  events : List Event := []
  progress : Progress

/-- The end of an exchange. A fault is told to the listener and breaks the connection if it is
fatal; input behind a complete answer breaks it as well. -/
def finish (c : Connection) (o : Operation) (events : List Event) (outcome : Except Fault Unit) :
    Turn :=
  let c := { c with inFlight := false }
  match outcome with
  | .ok () =>
    let c := if c.hasBufferedInput then c.markBroken else c
    { events, progress := .ended { connection := c, operation := o, result := .ok o.state } }
  | .error fault =>
    let c := if fault.isFatal then c.markBroken else c
    let failed := o.fail fault
    { events := events ++ failed.events
      progress := .ended
        { connection := c, operation := failed.operation, result := .ok failed.operation.state } }

/-- Gives frames to the operation until it has its outcome or they run out, and then the fault that
waits behind them, if there is one. `events` is what the listener has been told so far. -/
def drain (c : Connection) : Operation → List Event → List Frame → Turn
  | o, events, [] =>
    match c.deferred with
    | some fault => finish { c with ready := [], deferred := none } o events (.error fault)
    | none =>
      { events
        progress := .waiting
          { connection := { c with ready := [] }, operation := o, phase := .receiving } }
  | o, events, frame :: ready =>
    let step := o.onFrame frame
    let events := events ++ step.events
    match step.result with
    | .error fault => finish { c with ready } step.operation events (.error fault)
    | .ok .more => drain c step.operation events ready
    | .ok .done => finish { c with ready } step.operation events (.ok ())
    | .ok (.failed error) =>
      finish { c with ready, lastServerError := some error } step.operation events (.ok ())

/-- Starts to carry an operation over a connection. -/
def start (c : Connection) (o : Operation) : Turn :=
  if o.isTerminal then
    { progress := .ended
        { connection := c, operation := o, result := .error .alreadyCompleted } }
  else if !c.isUsable then
    let failed := o.fail (.binding (.notUsable c.id))
    { events := failed.events
      progress := .ended
        { connection := c, operation := failed.operation, result := .ok failed.operation.state } }
  else if c.hasBufferedInput then
    let failed := o.fail .unexpectedResponse
    { events := failed.events
      progress := .ended
        { connection := c.markBroken
          operation := failed.operation
          result := .ok failed.operation.state } }
  else
    let c := { c with inFlight := true }
    let begun := o.beginSend
    match begun.result.bind Frame.encode with
    | .error fault => finish c begun.operation begun.events (.error fault)
    | .ok bytes =>
      { events := begun.events
        progress := .waiting
          { connection := c, operation := begun.operation, phase := .sending (.writing bytes) } }

/-- Goes on with an answer of the transport. -/
def resume (x : Exchange) (answer : Completion) : Turn :=
  match x.phase with
  | .sending sending =>
    match sending.resume answer with
    | .more sending => { progress := .waiting { x with phase := .sending sending } }
    | .ended result =>
      let c := x.connection.afterSending result
      match result with
      | .error fault => finish c x.operation [] (.error fault)
      | .ok () => drain c x.operation [] c.ready
  | .receiving =>
    match x.connection.afterReading answer with
    | (c, some fault) => finish c x.operation [] (.error fault)
    | (c, none) => drain c x.operation [] c.ready

/-- The deadline passes. -/
def expire (x : Exchange) : Turn := finish x.connection x.operation [] (.error .timeout)

end Exchange

end StoreClient
