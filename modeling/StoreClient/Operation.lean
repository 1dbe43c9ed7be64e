import StoreClient.Accumulator
import StoreClient.Request

/-!
# Operations

An operation is one request on its way to its outcome. It knows nothing of connections: it hands out
the frame to send, takes the frames of the answer, and tells its listener what happens as a list of
events. Whatever happens, the listener hears of one outcome: the last part of the answer or a fault.

    encoded ── send ──▶ sent ── frame ──▶ receiving ─┬─ last fragment ──▶ done
                                            │        └─ error, fault ──▶ failed
                                            ▼
                                        streaming ── frame ──▶ (as above)
-/

namespace StoreClient

namespace Operation

/-- How far an operation has come. -/
inductive State where
  /-- The request has not been sent. -/
  | encoded
  | sent
  /-- A frame has arrived that was no accepted fragment. -/
  | receiving
  /-- A fragment has been accepted and more are due. -/
  | streaming
  | done
  | failed
  deriving DecidableEq, Repr

namespace State

/-- Whether the outcome is settled. -/
def isTerminal : State → Bool
  | done | failed => true
  | _ => false

/-- Whether an answer is due. -/
def isWaiting : State → Bool
  | sent | receiving | streaming => true
  | _ => false

/-- The name of a state in reports. -/
def name : State → String
  | encoded => "Encoded"
  | sent => "Sent"
  | receiving => "Receiving"
  | streaming => "Streaming"
  | done => "Done"
  | failed => "Failed"

end State

/-- What a listener is told. -/
inductive Event where
  /-- An answer, or a fragment of one; `done` marks the last. -/
  | response (response : Response) (done : Bool)
  | fault (fault : Fault)
  deriving DecidableEq, Repr

/-- Whether an event is an outcome, behind which nothing comes. -/
def Event.isTerminal : Event → Bool
  | .response _ done => done
  | .fault _ => true

/-- What a frame has brought about. -/
inductive Progress where
  /-- More frames are due. -/
  | more
  /-- The answer is complete. -/
  | done
  /-- The server has refused the request. -/
  | failed (error : ServerError)
  deriving DecidableEq, Repr

end Operation

/-- A request on its way. -/
structure Operation where
  state : Operation.State
  request : EncodedRequest
  accumulator : Accumulator
  /-- Whether the listener is still to hear of the outcome. -/
  listening : Bool
  /-- The number of frames taken. -/
  frames : Nat
  deriving DecidableEq, Repr

namespace Operation

/-- An operation with its request encoded. -/
def ofRequest (request : Request) (delivery : Delivery) : Operation where
  state := .encoded
  request := request.encode
  accumulator := { delivery }
  listening := true
  frames := 0

/-- Whether the outcome is settled. -/
def isTerminal (o : Operation) : Bool := o.state.isTerminal

/-- The kind of the answer. -/
def kind (o : Operation) : ResponseKind := o.request.kind

/-- How the answer is delivered. -/
def delivery (o : Operation) : Delivery := o.accumulator.delivery

/-- A step of an operation: the operation after it, what the listener is told, and what the caller
gets. -/
structure Step (α : Type) where
  operation : Operation
  events : List Event := []
  result : α

/-- The frame to send, which can be had once. -/
def beginSend (o : Operation) : Step (Except Fault Frame) :=
  if o.state = .encoded then
    { operation := { o with state := .sent }, result := .ok o.request.frame }
  else if o.isTerminal then { operation := o, result := .error .alreadyCompleted }
  else { operation := o, result := .error (.binding .alreadyBound) }

/-- Ends the operation with a fault, unless its outcome is settled. -/
def fail (o : Operation) (fault : Fault) : Step Bool :=
  if o.isTerminal then { operation := o, result := false }
  else
    { operation := { o with state := .failed, listening := false }
      events := if o.listening then [.fault fault] else []
      result := true }

/-- What the listener is told of a value that is ready. -/
def deliver (o : Operation) (ready : Option Response) (done : Bool) : List Event :=
  if o.listening then ready.toList.map (.response · done) else []

/-- Takes a fragment of the answer. -/
def onFragment (o : Operation) (fragment : Response) (done : Bool) :
    Step (Except Fault Progress) :=
  let (accumulator, ready) := o.accumulator.push fragment done
  let o := { o with accumulator }
  match ready with
  | .error fault => { operation := o, result := .error fault }
  | .ok ready =>
    if done then
      { operation := { o with state := .done, listening := false }
        events := o.deliver ready true
        result := .ok .done }
    else
      { operation := { o with state := .streaming }
        events := o.deliver ready false
        result := .ok .more }

/-- Takes a frame. A fault means that the frame could not be made sense of; whoever drives the
operation is to end it with that fault. -/
def onFrame (o : Operation) (frame : Frame) : Step (Except Fault Progress) :=
  if o.isTerminal then { operation := o, result := .error .alreadyCompleted }
  else if !o.state.isWaiting then { operation := o, result := .error (.uninitialized .notSent) }
  else
    let o := { o with
      frames := o.frames + 1
      state := if o.state = .sent then .receiving else o.state }
    if frame.isError then
      match ServerError.decode frame.payload with
      | .error fault => { operation := o, result := .error fault }
      | .ok error =>
        let failed := o.fail (.server error)
        { failed with result := .ok (.failed error) }
    else
      match o.kind.decode frame.tag frame.payload with
      | .error fault => { operation := o, result := .error fault }
      | .ok (fragment, done) => o.onFragment fragment done

/-- What the listener is told when the operation is given up: one that was sent and has no outcome
owes it one. -/
def abandon (o : Operation) : List Event :=
  if o.state.isWaiting then (o.fail .connectionClosed).events else []

/-- The operation as reports show it. -/
def describe (o : Operation) : String :=
  s!"Operation \x7b state: {o.state.name}, kind: {o.kind.name}, "
    ++ s!"delivery: {o.delivery.name}, frames: {o.frames} \x7d"

end Operation

end StoreClient
