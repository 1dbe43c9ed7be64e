import StoreClient.Exchange
import StoreClient.Pool

/-!
# Clients

A client runs any number of calls over the connections of one pool. Each call checks a connection
out, carries one operation over it and gives it back. Between two inputs (`Client.Input`) a call
waits for one thing only (`Call.wait?`), and the calls of a client may come by turns in any order.

A call has three faces. Whoever waits for its answer gets `Call.answer?`; whoever brought a listener
gets `Call.result?`, and the listener hears `Call.events`; and where the call runs by itself, its
listener hears everything, also that no connection could be had (`Call.told`).
-/

namespace StoreClient

open Operation (Event)

namespace Call

/-- How far a call has come. -/
inductive Stage where
  /-- A connection is being opened for it. -/
  | connecting (reservation : Pool.Reservation)
  /-- Its operation is under way on a connection, which counts for the slot of this key. -/
  | exchanging (slot : Nat) (exchange : Exchange)
  /-- No connection could be had. -/
  | unserved (fault : Fault)
  /-- Its operation has ended, and its connection is given back. -/
  | ended (result : Except Fault Operation.State)
  /-- The caller has dropped it. -/
  | dropped

end Call

/-- A call of a client. -/
structure Call where
  request : Request
  delivery : Delivery
  stage : Call.Stage
  /-- What the listener has been told. -/
  events : List Event := []

namespace Call

/-- What a call waits for. -/
inductive Wait where
  /-- A byte stream to a host. -/
  | connection (reservation : Pool.Reservation)
  /-- The byte stream of the connection, which takes no more than `capacity` bytes at a time. -/
  | transport (connection capacity : Nat) (await : Await)

/-- What the call waits for, unless it is over. -/
def wait? (c : Call) : Option Wait :=
  match c.stage with
  | .connecting reservation => some (.connection reservation)
  | .exchanging _ x => some (.transport x.connection.id x.connection.readCapacity x.await)
  | _ => none

/-- How the call went, as whoever brought a listener is told. -/
def result? (c : Call) : Option (Except Fault Operation.State) :=
  match c.stage with
  | .unserved fault => some (.error fault)
  | .ended result => some result
  | _ => none

/-- The outcome among the events that a listener has been told. -/
def outcome (events : List Event) : Except Fault Response :=
  match events.find? (·.isTerminal) with
  | some (.response response _) => .ok response
  | some (.fault fault) => .error fault
  | none => .error (.binding .noOutcome)

/-- The answer that whoever waits for it is given. -/
def answer? (c : Call) : Option (Except Fault Response) :=
  c.result?.map fun result => result.bind fun _ => outcome c.events

/-- What the listener of a call that runs by itself is told. -/
def told (c : Call) : List Event :=
  match c.stage with
  | .unserved fault => [.fault fault]
  | _ => c.events

/-- What a turn of an exchange makes of a call: how far it has come, what its listener is told, and
the connection where it is to be given back. The operation is given up when the exchange ends. -/
def ofTurn (slot : Nat) (turn : Exchange.Turn) : Stage × List Event × Option Pool.Pooled :=
  match turn.progress with
  | .waiting x => (.exchanging slot x, turn.events, none)
  | .ended e =>
    (.ended e.result, turn.events ++ e.operation.abandon,
      some { slot, connection := e.connection })

/-- The first turn of a call, over the connection that was checked out for it. -/
def firstTurn (request : Request) (delivery : Delivery) (pooled : Pool.Pooled) : Exchange.Turn :=
  Exchange.start pooled.connection (.ofRequest request delivery)

end Call

/-- A client with the calls that were made, in the order of their beginnings. -/
structure Client where
  pool : Pool
  /-- How long an operation may take, in milliseconds. -/
  operationTimeout : Option UInt64 := none
  calls : List Call := []

namespace Client

/-- Something that happens to a client. Calls are known by their numbers. -/
inductive Input where
  /-- A call is made. -/
  | made (request : Request) (delivery : Delivery)
  /-- The byte stream that a call waits for is open, or could not be opened. -/
  | connected (call : Nat) (result : Except Fault Address)
  /-- The transport answers what a call waits for. -/
  | completed (call : Nat) (completion : Completion)
  /-- The deadline of a call passes. -/
  | expired (call : Nat)
  /-- A caller drops a call. -/
  | cancelled (call : Nat)
  /-- The client is closed. -/
  | closed

/-- Gives a connection back, where there is one. -/
def giveBack (c : Client) (back : Option Pool.Pooled) : Client :=
  { c with pool := back.elim c.pool c.pool.giveBack }

/-- Sets the call of a number. -/
def put (c : Client) (number : Nat) (call : Call) : Client :=
  { c with calls := c.calls.set number call }

/-- Begins a call. -/
def make (c : Client) (request : Request) (delivery : Delivery) : Client :=
  let (checkout, pool) := c.pool.checkOut
  let c := { c with pool }
  let (stage, events, back) : Call.Stage × List Event × Option Pool.Pooled :=
    match checkout with
    | .refused fault => (.unserved fault, [], none)
    | .connecting reservation => (.connecting reservation, [], none)
    | .ready pooled => Call.ofTurn pooled.slot (Call.firstTurn request delivery pooled)
  let call : Call := { request, delivery, stage, events }
  { c with calls := c.calls ++ [call] }.giveBack back

/-- Goes on with a call whose exchange has made a turn. -/
def advance (c : Client) (number : Nat) (call : Call) (slot : Nat) (turn : Exchange.Turn) :
    Client :=
  let (stage, events, back) := Call.ofTurn slot turn
  (c.put number { call with stage, events := call.events ++ events }).giveBack back

/-- Goes on with a call whose byte stream is open or could not be opened. -/
def connect (c : Client) (number : Nat) (call : Call) (reservation : Pool.Reservation) :
    Except Fault Address → Client
  | .error fault =>
    { c with pool := c.pool.release reservation }.put number { call with stage := .unserved fault }
  | .ok address =>
    let (pooled, pool) := c.pool.connected reservation address
    { c with pool }.advance number call pooled.slot
      (Call.firstTurn call.request call.delivery pooled)

/-- Drops a call. Its reservation is given back, or its connection, which is marked as in flight; a
listener that has heard of no outcome hears that there will be none. -/
def cancel (c : Client) (number : Nat) (call : Call) : Client :=
  match call.stage with
  | .connecting reservation =>
    { c with pool := c.pool.release reservation }.put number { call with stage := .dropped }
  | .exchanging slot x =>
    (c.put number
      { call with stage := .dropped, events := call.events ++ x.operation.abandon }).giveBack
      (some { slot, connection := x.connection })
  | _ => c

/-- What happens next. An input that the call does not wait for changes nothing. -/
def step (c : Client) : Input → Client
  | .made request delivery => c.make request delivery
  | .connected number result =>
    match c.calls[number]? with
    | some call =>
      match call.stage with
      | .connecting reservation => c.connect number call reservation result
      | _ => c
    | none => c
  | .completed number completion =>
    match c.calls[number]? with
    | some call =>
      match call.stage with
      | .exchanging slot x => c.advance number call slot (x.resume completion)
      | _ => c
    | none => c
  | .expired number =>
    match c.calls[number]? with
    | some call =>
      match call.stage with
      | .exchanging slot x => c.advance number call slot x.expire
      | _ => c
    | none => c
  | .cancelled number =>
    match c.calls[number]? with
    | some call => c.cancel number call
    | none => c
  | .closed => { c with pool := c.pool.close }

/-- What happens in turn. -/
def run (c : Client) (inputs : List Input) : Client := inputs.foldl step c

end Client

end StoreClient
