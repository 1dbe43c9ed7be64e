import StoreClient.Address
import StoreClient.Frame.Decoder

/-!
# Connections

What is known of one open connection: the frames that have arrived and wait to be taken, the frame
under way, and whether the connection can carry another operation. The byte stream itself belongs to
the transport; a connection only learns what was read from it.

Being broken is for good: a connection whose byte stream may be out of step is never used again.
-/

namespace StoreClient

/-- An open connection. -/
structure Connection where
  /-- The number of the connection, which no other one has. -/
  id : Nat
  host : HostId
  /-- The address that was connected to. -/
  address : Option Address := none
  decoder : Decoder
  /-- Complete frames that nobody has taken, oldest first. -/
  ready : List Frame := []
  /-- A fault in the input behind the ready frames. -/
  deferred : Option Fault := none
  /-- The latest error of the server. -/
  lastServerError : Option ServerError := none
  /-- Whether a request is under way whose answer has not been read to its end. -/
  inFlight : Bool := false
  broken : Bool := false
  closed : Bool := false
  deriving DecidableEq, Repr

namespace Connection

/-- A connection over a byte stream that nothing has been read from. -/
def ofStream (id : Nat) (host : HostId) (maxFrameLength : UInt32) : Connection where
  id := id
  host := host
  decoder := .ofMaxLength maxFrameLength

/-- Whether the connection can carry an operation. -/
def isUsable (c : Connection) : Bool := !c.broken && !c.closed && !c.inFlight

/-- Whether input is held that no operation has taken. -/
def hasBufferedInput (c : Connection) : Bool := !c.ready.isEmpty || !c.decoder.isIdle

/-- The connection, never to be used again. -/
def markBroken (c : Connection) : Connection := { c with broken := true }

/-- How many bytes a read may give at most. A closed connection has given its buffer up. -/
def readCapacity (c : Connection) : Nat := if c.closed then 64 else 8192

/-- The next thing that can be had without reading: a frame, or else the fault behind the frames. -/
def next? (c : Connection) : Option (Except Fault Frame × Connection) :=
  match c.ready, c.deferred with
  | frame :: ready, _ => some (.ok frame, { c with ready })
  | [], some fault => some (.error fault, { c with deferred := none })
  | [], none => none

/-- Takes what a read gave. A fault in it breaks the connection and waits behind the frames. -/
def receive (c : Connection) (chunk : Bytes) : Connection :=
  let fed := c.decoder.feed chunk
  { c with
    decoder := fed.decoder
    ready := c.ready ++ fed.frames
    deferred := fed.fault.or c.deferred
    broken := c.broken || fed.fault.isSome }

/-- Closes the connection and drops what it holds. -/
def close (c : Connection) : Connection :=
  if c.closed then c
  else { c with closed := true, ready := [], deferred := none, decoder := c.decoder.reset }

end Connection

/-- The text of a truth value. -/
def boolText (b : Bool) : String := if b then "true" else "false"

/-- A character as it stands between quotes in a report. -/
def quotedChar (c : Char) : String :=
  if c = '"' then "\\\""
  else if c = '\\' then "\\\\"
  else if c = '\n' then "\\n"
  else if c = '\r' then "\\r"
  else if c = '\t' then "\\t"
  else if c = '\x00' then "\\0"
  else if c.toNat < 0x20 ∨ c.toNat = 0x7F then
    "\\u\x7b" ++ String.ofList (Nat.toDigits 16 c.toNat) ++ "\x7d"
  else c.toString

/-- A text between quotes. -/
def quoted (s : String) : String := "\"" ++ String.join (s.toList.map quotedChar) ++ "\""

/-- A host as reports show it. -/
def HostId.describe (id : HostId) : String :=
  s!"HostId \x7b host: {quoted id.host}, port: {id.port} \x7d"

/-- The connection as reports show it. -/
def Connection.describe (c : Connection) : String :=
  let address := match c.address with
    | some address => s!"Some({address.text})"
    | none => "None"
  s!"Connection \x7b id: ConnectionId({c.id}), host: {c.host.describe}, addr: {address}, "
    ++ s!"in_flight: {boolText c.inFlight}, broken: {boolText c.broken}, "
    ++ s!"closed: {boolText c.closed} \x7d"

end StoreClient
