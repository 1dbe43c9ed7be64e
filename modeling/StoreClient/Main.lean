import Std.Async.DNS
import Std.Async.TCP
import StoreClient.Client
import StoreClient.Probe

/-!
# The probe as a program

Runs a probe over the network and prints what it finds. Usage: the target, a host name with an
optional port behind a colon, and the number of pings.

Names are looked up and byte streams opened, written and read here; all else is decided by the
client and the probe.
-/

namespace StoreClient.Live

open Std.Async

/-- A client and the byte streams of its connections. -/
structure State where
  client : Client
  streams : List (Nat × TCP.Socket.Client) := []

/-- An address as the network knows it. -/
def socketAddress (ip : Std.Net.IPAddr) (port : UInt16) : Std.Net.SocketAddress :=
  match ip with
  | .v4 addr => .v4 { addr, port }
  | .v6 addr => .v6 { addr, port }

/-- An address of the network. -/
def address (ip : Std.Net.IPAddr) (port : UInt16) : Address :=
  match ip with
  | .v4 addr =>
    ⟨.v4 ⟨addr.octets[0], addr.octets[1], addr.octets[2], addr.octets[3]⟩, port⟩
  | .v6 addr => ⟨.v6 addr.segments.toList, port⟩

/-- Finds the first address of a host. -/
def lookUp (id : HostId) : IO (Except Fault Std.Net.IPAddr) := do
  try
    let found ← (DNS.getAddrInfo id.host (toString id.port)).block
    match found[0]? with
    | some ip => return .ok ip
    | none => return .error (.unresolved id.host id.port (.other "no addresses returned"))
  catch e => return .error (.unresolved id.host id.port (.other (toString e)))

/-- Opens a byte stream to an address. -/
def openStream (ip : Std.Net.IPAddr) (port : UInt16) (nodelay : Bool) :
    IO (Except Fault TCP.Socket.Client) := do
  try
    let socket ← TCP.Socket.Client.mk
    (socket.connect (socketAddress ip port)).block
    if nodelay then
      try socket.noDelay catch _ => pure ()
    return .ok socket
  catch e => return .error (.connect (address ip port).text (toString e))

/-- Does what a call asks of its byte stream. -/
def perform (socket : TCP.Socket.Client) (capacity : Nat) : Await → IO Completion
  | .write bytes => do
    try
      (socket.send bytes.toByteArray).block
      return .wrote bytes.length
    catch e => return .failed (toString e)
  | .flush => return .flushed
  | .read => do
    try
      let chunk ← (socket.recv? capacity.toUInt64).block
      return .received ((chunk.map (·.toList)).getD [])
    catch e => return .failed (toString e)

/-- Something happens to the client. -/
def happen (live : IO.Ref State) (input : Client.Input) : IO Unit :=
  live.modify fun s => { s with client := s.client.step input }

/-- Opens the byte stream that a call waits for. -/
def connect (live : IO.Ref State) (number : Nat) (host : HostId) : IO Unit := do
  let pool := (← live.get).client.pool
  let opened ← do
    match ← lookUp host with
    | .error fault => pure (.error fault)
    | .ok ip =>
      match ← openStream ip host.port pool.opening.nodelay with
      | .error fault => pure (.error fault)
      | .ok socket =>
        live.modify fun s => { s with streams := (pool.nextConnection, socket) :: s.streams }
        pure (.ok (address ip host.port))
  happen live (.connected number opened)

/-- Runs a call to its end. -/
partial def settle (live : IO.Ref State) (number : Nat) : IO Unit := do
  let s ← live.get
  match (s.client.calls[number]?).bind Call.wait? with
  | none => return
  | some (.connection reservation) =>
    connect live number reservation.host
    settle live number
  | some (.transport connection capacity await) =>
    match s.streams.lookup connection with
    | none => happen live (.cancelled number)
    | some socket =>
      happen live (.completed number (← perform socket capacity await))
      settle live number

/-- Makes a call and waits for its answer. -/
def execute (live : IO.Ref State) (request : Request) : IO (Except Fault Response) := do
  let number := (← live.get).client.calls.length
  happen live (.made request .merged)
  settle live number
  let call := (← live.get).client.calls[number]?
  return ((call.bind Call.answer?).getD (.error (.binding .noOutcome)))

/-- Makes a client for a configuration. -/
def start (config : Config) : IO (Except Fault (Probe.Runner IO)) := do
  match Pool.ofConfig config with
  | .error fault => return .error fault
  | .ok pool =>
    let live ← IO.mkRef { client := { pool, operationTimeout := config.operationTimeout } }
    return .ok
      { execute := execute live
        clock := do return some ((← IO.monoNanosNow) / 1000) }

end StoreClient.Live

/-- Runs the probe that the arguments ask for. -/
def main (args : List String) : IO UInt32 := do
  let report ← StoreClient.Probe.runArgs args StoreClient.Live.start
  for finding in report.findings do
    IO.println finding.text
  if let some failure := report.failure then
    IO.eprint failure.text
  return report.status
