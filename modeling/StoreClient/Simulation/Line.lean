import StoreClient.Exchange

/-!
# Simulated byte streams

A line is a byte stream made of data: asked for something, it says what comes of it. Time is part of
the data. Whoever asks has patience for so many milliseconds, or without end; a line either answers
in time, and says how much patience is left, or lets it run out.

Over any line a frame can be sent or read and an operation be carried, by the same steps as over a
real transport.
-/

namespace StoreClient.Simulation

open Operation (Event)

/-- For how many milliseconds somebody will wait; without end where there is no number. -/
abbrev Patience := Option Nat

/-- What is left of patience after so many milliseconds, unless it runs out before. -/
def Patience.after? (patience : Patience) (milliseconds : Nat) : Option Patience :=
  match patience with
  | none => some none
  | some left => if milliseconds ≤ left then some (some (left - milliseconds)) else none

/-- What a line makes of something asked of it. -/
inductive Answer (σ : Type) where
  /-- It answers, with so much patience left. -/
  | given (completion : Completion) (patience : Patience) (line : σ)
  /-- It lets the patience run out, or never answers. -/
  | overdue (line : σ)

/-- A type of simulated byte streams. -/
class Line (σ : Type) where
  /-- Asks the line for something. A read gives at most `capacity` bytes. -/
  ask : (line : σ) → (capacity : Nat) → Await → (patience : Patience) → Answer σ
  /-- A bound on the number of reads that give something. -/
  reads : σ → Nat

/-- What is left when a line has been used. -/
structure Used (σ α : Type) where
  connection : Connection
  line : σ
  /-- What came of it, unless patience ran out before. -/
  result : Option α

variable {σ : Type} [Line σ]

/-! ### Single frames -/

/-- Writes and flushes until the frame is out or lost, in no more than `steps` steps. -/
def sendFrom : (steps : Nat) → (patience : Patience) → Sending → σ → Option (Except Fault Unit) × σ
  | 0, _, _, line => (none, line)
  | steps + 1, patience, sending, line =>
    match Line.ask line 0 sending.await patience with
    | .overdue line => (none, line)
    | .given completion patience line =>
      match sending.resume completion with
      | .ended result => (some result, line)
      | .more sending => sendFrom steps patience sending line

/-- How many answers it takes at most until a frame is out. -/
def sendingSteps : Sending → Nat
  | .writing rest => rest.length + 1
  | .flushing => 1

/-- Sends a frame. -/
def sendFrame (c : Connection) (line : σ) (frame : Frame) (patience : Patience) :
    Used σ (Except Fault Unit) :=
  match frame.encode with
  | .error fault => { connection := c, line, result := some (.error fault) }
  | .ok bytes =>
    let sending := Sending.writing bytes
    match sendFrom (sendingSteps sending) patience sending line with
    | (none, line) => { connection := c, line, result := none }
    | (some result, line) => { connection := c.afterSending result, line, result := some result }

/-- Reads until a frame or a fault can be had, at most `reads` times. -/
def readFrom : (reads : Nat) → (patience : Patience) → Connection → σ → Used σ (Except Fault Frame)
  | reads, patience, c, line =>
    match c.next? with
    | some (result, c) => { connection := c, line, result := some result }
    | none =>
      match reads with
      | 0 => { connection := c, line, result := none }
      | reads + 1 =>
        match Line.ask line c.readCapacity .read patience with
        | .overdue line => { connection := c, line, result := none }
        | .given completion patience line =>
          match c.afterReading completion with
          | (c, some fault) => { connection := c, line, result := some (.error fault) }
          | (c, none) => readFrom reads patience c line

/-- Reads the next frame. -/
def readFrame (c : Connection) (line : σ) (patience : Patience) : Used σ (Except Fault Frame) :=
  readFrom (Line.reads line + 1) patience c line

/-! ### Whole exchanges -/

/-- When something that takes too long is cut off. -/
structure Limits where
  /-- When its deadline passes. -/
  deadline : Option Nat := none
  /-- When its caller drops it. -/
  cancellation : Option Nat := none
  deriving DecidableEq, Repr

/-- What cuts something off. -/
inductive Cut where
  | deadline
  | caller
  deriving DecidableEq, Repr

/-- What cuts it off, if anything does. Of two at the same time the deadline goes first. -/
def Limits.cut? (l : Limits) : Option Cut :=
  match l.deadline, l.cancellation with
  | none, none => none
  | some _, none => some .deadline
  | none, some _ => some .caller
  | some deadline, some cancellation =>
    some (if deadline ≤ cancellation then .deadline else .caller)

/-- How long it may take. -/
def Limits.patience (l : Limits) : Patience :=
  match l.deadline, l.cancellation with
  | some deadline, some cancellation => some (min deadline cancellation)
  | deadline, cancellation => deadline.or cancellation

/-- What is left when an operation has been carried over a line. -/
structure Driven (σ : Type) where
  connection : Connection
  operation : Operation
  line : σ
  /-- What the listener has been told. -/
  events : List Event
  /-- What the caller gets, unless the caller has dropped the exchange. -/
  result : Option (Except Fault Operation.State)

/-- What is left of an exchange that waits for something that does not come in time. -/
def cutOff (limits : Limits) (x : Exchange) (line : σ) (events : List Event) : Driven σ :=
  let turn : Exchange.Turn :=
    match limits.cut? with
    | some .deadline => x.expire
    | _ => { progress := .waiting x }
  match turn.progress with
  | .ended e =>
    { connection := e.connection
      operation := e.operation
      line
      events := events ++ turn.events
      result := some e.result }
  | .waiting x =>
    { connection := x.connection, operation := x.operation, line, events, result := none }

/-- Goes on with what a turn of an exchange has brought about, for at most `steps` answers. -/
def carryFrom (limits : Limits) :
    (steps : Nat) → (patience : Patience) → Exchange.Turn → σ → List Event → Driven σ
  | steps, patience, turn, line, events =>
    let events := events ++ turn.events
    match turn.progress with
    | .ended e =>
      { connection := e.connection
        operation := e.operation
        line
        events
        result := some e.result }
    | .waiting x =>
      match steps with
      | 0 => cutOff limits x line events
      | steps + 1 =>
        match Line.ask line x.connection.readCapacity x.await patience with
        | .overdue line => cutOff limits x line events
        | .given completion patience line =>
          carryFrom limits steps patience (x.resume completion) line events

/-- How many answers a turn of an exchange may still ask for. -/
def carrySteps (turn : Exchange.Turn) (line : σ) : Nat :=
  match turn.progress with
  | .ended _ => 0
  | .waiting x =>
    match x.phase with
    | .sending sending => sendingSteps sending + Line.reads line + 1
    | .receiving => Line.reads line + 1

/-- Carries an operation over a line. -/
def carry (c : Connection) (o : Operation) (line : σ) (limits : Limits) : Driven σ :=
  let turn := Exchange.start c o
  carryFrom limits (carrySteps turn line) limits.patience turn line []

/-- Carries an operation over a line several times in turn: what is left, and what the caller gets
each time. -/
def carryTimes (limits : Limits) :
    (times : Nat) → Driven σ → List (Option (Except Fault Operation.State)) × Driven σ
  | 0, d => ([], d)
  | times + 1, d =>
    let next := carry d.connection d.operation d.line limits
    let (results, last) := carryTimes limits times { next with events := d.events ++ next.events }
    (next.result :: results, last)

/-- The story of an operation from its first drive until it was given up. -/
structure Story where
  /-- What the caller got of each drive that was not dropped. -/
  results : List (Option (Except Fault Operation.State))
  /-- The state in which the operation was given up. -/
  state : Operation.State
  frames : Nat
  /-- What the listener was told, to the end. -/
  events : List Event

/-- Carries an operation over a line several times in turn and gives it up. The listener has been
told `events` before. -/
def tell (c : Connection) (o : Operation) (events : List Event) (line : σ) (limits : Limits)
    (times : Nat) : Story × Connection × σ :=
  let before : Driven σ := { connection := c, operation := o, line, events, result := none }
  let (results, last) := carryTimes limits times before
  ({ results
     state := last.operation.state
     frames := last.operation.frames
     events := last.events ++ last.operation.abandon },
    last.connection, last.line)

end StoreClient.Simulation
