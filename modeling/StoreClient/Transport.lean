import StoreClient.Connection

/-!
# Talking to a transport

A transport is a byte stream that may keep a caller waiting. A call that has to wait says what it
waits for (`Await`) and goes on with what the transport answers (`Completion`), so that everything
else about the call is plain data.
-/

namespace StoreClient

/-- What a call asks of the transport. -/
inductive Await where
  /-- To take some of these bytes. -/
  | write (bytes : Bytes)
  /-- To send off what it has taken. -/
  | flush
  /-- To give some bytes. -/
  | read
  deriving DecidableEq, Repr

/-- What the transport answers. -/
inductive Completion where
  /-- It has taken the first `count` bytes. -/
  | wrote (count : Nat)
  | flushed
  /-- It gives these bytes; none at the end of the stream. -/
  | received (chunk : Bytes)
  | failed (cause : String)
  deriving DecidableEq, Repr

/-- The cause of a fault where a transport takes no byte at all. -/
def writeZero : String := "write zero"

/-- The cause of a fault where a byte stream is not open in time. -/
def connectTimedOut : String := "connect timed out"

/-- A frame on its way out: it is written to the last byte and then flushed. -/
inductive Sending where
  /-- These bytes are still to be written. -/
  | writing (rest : Bytes)
  | flushing
  deriving DecidableEq, Repr

namespace Sending

/-- What is waited for. -/
def await : Sending → Await
  | writing rest => .write rest
  | flushing => .flush

/-- What comes of an answer of the transport: either there is more to do, or the frame is out or
lost. -/
inductive Next where
  | more (sending : Sending)
  | ended (result : Except Fault Unit)

/-- Goes on with an answer of the transport. One that was not asked for changes nothing. -/
def resume : Sending → Completion → Next
  | writing rest, .wrote count =>
    if count = 0 then .ended (.error (.write writeZero))
    else if rest.length ≤ count then .more flushing
    else .more (writing (rest.drop count))
  | writing _, .failed cause => .ended (.error (.write cause))
  | flushing, .flushed => .ended (.ok ())
  | flushing, .failed cause => .ended (.error (.write cause))
  | sending, _ => .more sending

end Sending

namespace Connection

/-- The connection after a frame is out or lost; a lost one breaks it. -/
def afterSending (c : Connection) : Except Fault Unit → Connection
  | .ok () => c
  | .error _ => c.markBroken

/-- Takes the answer to a read: the connection after it, and the fault if no input came. -/
def afterReading (c : Connection) : Completion → Connection × Option Fault
  | .received [] => (c.markBroken, some .connectionClosed)
  | .received chunk => (c.receive chunk, none)
  | .failed cause => (c.markBroken, some (.read cause))
  | _ => (c, none)

end Connection

end StoreClient
