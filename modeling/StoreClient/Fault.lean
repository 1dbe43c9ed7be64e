import StoreClient.Host
import StoreClient.Tag
import StoreClient.Payload.Fault
import StoreClient.Text.Utf8

/-!
# Faults

Everything that can go wrong with a call, each fault a cause with its particulars. `Fault.message`
is the one place that words them, `Fault.kind` their classification, and `Fault.isFatal` says which
of them leave the byte stream of a connection out of step.

Where a cause can also be reported by a caller, who may fail an operation for reasons of its own, it
has a case `other` for the caller's words.
-/

namespace StoreClient

/-- Why the server refused a request. -/
structure ServerError where
  code : UInt32
  message : Bytes
  deriving DecidableEq, Repr, Inhabited

namespace ServerError

/-- The message as text; what is not UTF-8 is replaced. -/
def text (e : ServerError) : String := Utf8.decode e.message

/-- The error as reports show it. -/
def display (e : ServerError) : String := s!"ERR #{e.code} - {e.text}"

end ServerError

/-- Why a host name has no address. -/
inductive ResolveCause where
  /-- A fixed table of names does not list it. -/
  | noEntry
  | other (text : String)
  deriving DecidableEq, Repr

/-- The wording of a cause. -/
def ResolveCause.message : ResolveCause → String
  | noEntry => "no static entry"
  | other text => text

/-- What there was no memory for. -/
inductive MemoryCause where
  /-- The body of a frame. -/
  | frameBuffer (length : Nat)
  | other (text : String)
  deriving DecidableEq, Repr

/-- The wording of a cause. -/
def MemoryCause.message : MemoryCause → String
  | frameBuffer length => s!"could not allocate {length} byte frame buffer"
  | other text => text

/-- Why an operation could not be bound to a connection. -/
inductive BindingCause where
  /-- It is bound to one already. -/
  | alreadyBound
  /-- The connection of this number can carry no operation any more. -/
  | notUsable (connection : Nat)
  /-- It ended and nobody was told how. -/
  | noOutcome
  | other (text : String)
  deriving DecidableEq, Repr

/-- The wording of a cause. -/
def BindingCause.message : BindingCause → String
  | alreadyBound => "operation is already bound to a connection"
  | notUsable connection => s!"conn-{connection} is not usable"
  | noOutcome => "operation ended without an outcome"
  | other text => text

/-- What is wrong with a frame or payload. -/
inductive FormatCause where
  /-- A frame whose declared length has no room for its tag. -/
  | noRoomForTag
  /-- A frame whose declared length exceeds the accepted maximum. -/
  | frameTooLong (declared maximum : Nat)
  /-- A payload whose length does not fit a length prefix. -/
  | payloadTooLong (length : Nat)
  /-- A payload that is no message of the expected type. -/
  | undecodable (fault : Payload.DecodeFault)
  /-- An error frame that is no error message. -/
  | undecodableError (fault : Payload.DecodeFault)
  /-- A frame with another tag than the expected one. -/
  | unexpectedTag (expected received : UInt8)
  /-- A fragment behind the last one. -/
  | fragmentAfterLast
  /-- Two fragments that are no parts of one response. -/
  | unmergeable (fragment into : String)
  | other (text : String)
  deriving DecidableEq, Repr

/-- The wording of a cause. -/
def FormatCause.message : FormatCause → String
  | noRoomForTag => "declared frame length 0 leaves no room for a tag"
  | frameTooLong declared maximum => s!"declared frame length {declared} exceeds maximum {maximum}"
  | payloadTooLong length => s!"payload of {length} bytes too large"
  | undecodable fault => fault.message
  | undecodableError fault => s!"undecodable error frame: {fault.message}"
  | unexpectedTag expected received =>
    s!"expected {Tag.describe expected} but received {Tag.describe received}"
  | fragmentAfterLast => "fragment received after stream completed"
  | unmergeable fragment into => s!"cannot merge {fragment} fragment into {into}"
  | other text => text

/-- What an operation was used before. -/
inductive SetupCause where
  /-- Before its request was sent. -/
  | notSent
  | other (text : String)
  deriving DecidableEq, Repr

/-- The wording of a cause. -/
def SetupCause.message : SetupCause → String
  | notSent => "operation has not been sent"
  | other text => text

/-- What is wrong with a configuration. -/
inductive ConfigCause where
  | noHosts
  /-- The host at this position has no name. -/
  | emptyName (position : Nat)
  /-- A host that occurs twice. -/
  | duplicateHost (id : HostId)
  /-- Connections are to be opened ahead, but their number has no bound. -/
  | unboundedPrefill
  | zeroFrameLength
  /-- A host that is to be added is there already. -/
  | alreadyConfigured (id : HostId)
  /-- A text that is no configuration. -/
  | invalidJson
  | other (text : String)
  deriving DecidableEq, Repr

/-- The wording of a cause. -/
def ConfigCause.message : ConfigCause → String
  | noHosts => "no hosts configured"
  | emptyName position => s!"host #{position} has an empty name"
  | duplicateHost id => s!"host {id.text} listed more than once"
  | unboundedPrefill => "eager connect requires a finite max_total"
  | zeroFrameLength => "max_frame_len must be positive"
  | alreadyConfigured id => s!"host {id.text} already configured"
  | invalidJson => "invalid JSON config"
  | other text => text

/-- What can go wrong with a call. The causes of `connect`, `read` and `write` are in the words of
the transport. -/
inductive Fault where
  /-- A host name has no address. -/
  | unresolved (host : String) (port : UInt16) (cause : ResolveCause)
  /-- An address could not be connected to. -/
  | connect (address : String) (cause : String)
  | outOfMemory (cause : MemoryCause)
  | read (cause : String)
  | write (cause : String)
  /-- The peer closed the connection while an answer was due. -/
  | connectionClosed
  | binding (cause : BindingCause)
  /-- The server refused the request. -/
  | server (error : ServerError)
  | format (cause : FormatCause)
  /-- No connection is idle and none may be opened. -/
  | poolExhausted
  /-- A host that is not configured. -/
  | notFound (host : String) (port : UInt16)
  | outOfRange (index length : Nat)
  | uninitialized (cause : SetupCause)
  /-- The deadline of the operation has passed. -/
  | timeout
  /-- The operation has ended before. -/
  | alreadyCompleted
  /-- A response of another kind than the request's, or input that no request asked for. -/
  | unexpectedResponse
  | configuration (cause : ConfigCause)
  deriving DecidableEq, Repr

namespace Fault

/-- The wording of a fault. -/
def message : Fault → String
  | unresolved host port cause => s!"could not resolve {host}:{port}: {cause.message}"
  | connect address cause => s!"could not connect to {address}: {cause}"
  | outOfMemory cause => s!"out of memory: {cause.message}"
  | read cause => s!"read error: {cause}"
  | write cause => s!"write error: {cause}"
  | connectionClosed => "connection closed by peer"
  | binding cause => s!"event registration failed: {cause.message}"
  | server error => s!"server error: {error.display}"
  | format cause => s!"malformed message: {cause.message}"
  | poolExhausted => "connection pool exhausted"
  | notFound host port => s!"host {host}:{port} not found"
  | outOfRange index length => s!"index {index} out of range (len {length})"
  | uninitialized cause => s!"uninitialized: {cause.message}"
  | timeout => "operation timed out"
  | alreadyCompleted => "operation already completed"
  | unexpectedResponse => "unexpected response"
  | configuration cause => s!"configuration error: {cause.message}"

/-- The classes of faults. -/
inductive Kind where
  | unresolved | connect | outOfMemory | read | write | connectionClosed | binding | server | format
  | poolExhausted | notFound | outOfRange | uninitialized | timeout | alreadyCompleted
  | unexpectedResponse | configuration
  deriving DecidableEq, Repr

/-- The class of a fault. -/
def kind : Fault → Kind
  | unresolved .. => .unresolved
  | connect .. => .connect
  | outOfMemory _ => .outOfMemory
  | read _ => .read
  | write _ => .write
  | connectionClosed => .connectionClosed
  | binding _ => .binding
  | server _ => .server
  | format _ => .format
  | poolExhausted => .poolExhausted
  | notFound .. => .notFound
  | outOfRange .. => .outOfRange
  | uninitialized _ => .uninitialized
  | timeout => .timeout
  | alreadyCompleted => .alreadyCompleted
  | unexpectedResponse => .unexpectedResponse
  | configuration _ => .configuration

namespace Kind

/-- The stable number of a class; zero is kept for "no fault". -/
def code : Kind → Nat
  | unresolved => 1
  | connect => 2
  | outOfMemory => 3
  | read => 4
  | write => 5
  | connectionClosed => 6
  | binding => 7
  | server => 8
  | format => 9
  | poolExhausted => 10
  | notFound => 11
  | outOfRange => 12
  | uninitialized => 13
  | timeout => 14
  | alreadyCompleted => 15
  | unexpectedResponse => 16
  | configuration => 17

/-- The name of a class. -/
def name : Kind → String
  | unresolved => "DnsResolution"
  | connect => "Connect"
  | outOfMemory => "OutOfMemory"
  | read => "Read"
  | write => "Write"
  | connectionClosed => "ConnectionClosed"
  | binding => "EventRegistration"
  | server => "ServerError"
  | format => "MessageFormat"
  | poolExhausted => "PoolExhausted"
  | notFound => "NotFound"
  | outOfRange => "OutOfRange"
  | uninitialized => "Uninitialized"
  | timeout => "Timeout"
  | alreadyCompleted => "AlreadyCompleted"
  | unexpectedResponse => "UnexpectedResponse"
  | configuration => "Configuration"

/-- A short description of a class. -/
def description : Kind → String
  | unresolved => "Problems resolving host name/port number"
  | connect => "Could not connect"
  | outOfMemory => "Out of memory"
  | read => "Read error"
  | write => "Write error"
  | connectionClosed => "Connection closed"
  | binding => "Event registration error"
  | server => "Server error"
  | format => "Malformed message"
  | poolExhausted => "Connection pool exhausted"
  | notFound => "Not found"
  | outOfRange => "Out of range"
  | uninitialized => "Uninitialized"
  | timeout => "Timeout"
  | alreadyCompleted => "Operation already completed"
  | unexpectedResponse => "Unexpected response"
  | configuration => "Configuration error"

end Kind

/-- The error of the server that a fault carries. -/
def serverError? : Fault → Option ServerError
  | server error => some error
  | _ => none

/-- The transport's own words, where the fault comes from the transport. -/
def transportCause? : Fault → Option String
  | connect _ cause | read cause | write cause => some cause
  | _ => none

/-- Whether the byte stream may be out of step after the fault, so that the connection must not be
used again. Errors of the server and misuse by the caller leave it in step. -/
def isFatal : Fault → Bool
  | read _ | write _ | connectionClosed | format _ | outOfMemory _ | timeout | unexpectedResponse =>
    true
  | _ => false

end Fault

end StoreClient
