import StoreClient.Client
import StoreClient.Resolver
import StoreClient.Simulation.Network

/-!
# Clients in a network

A deployment is a client together with the network that it talks to and the way in which it finds
addresses. A call is let run until it is over or waits for something that never comes; then time
passes until its deadline or its caller cuts it off.
-/

namespace StoreClient.Simulation

/-- Where hosts are: how their addresses are found, and the network that these lead to. -/
structure Site where
  resolver : Resolver
  network : Network
  deriving DecidableEq, Repr

namespace Site

/-- What comes of opening a byte stream to a host. -/
inductive Reached where
  | opened (address : Address) (site : Site)
  | failed (fault : Fault)
  /-- Nothing ever comes of it, except that the time for connecting may run out. -/
  | pending (address : Address)

/-- Opens a byte stream to a host for the connection of a number. -/
def reach (s : Site) (connection : Nat) (host : HostId) : Reached :=
  match s.resolver.resolve host with
  | .error fault => .failed fault
  | .ok address =>
    match s.network.dial connection address with
    | .opened network => .opened address { s with network }
    | .failed cause => .failed (.connect address.text cause)
    | .pending => .pending address

/-- The fault of connecting to an address for too long. -/
def tooLate (address : Address) : Fault := .connect address.text connectTimedOut

/-- Opens a byte stream where the time for connecting is limited or not: the site after it and the
address or fault. Without limit a byte stream may never open, and then there is no result. -/
def dial (timeout : Option Nat) (connection : Nat) (host : HostId) :
    StateT Site Option (Except Fault Address) := fun s =>
  match s.reach connection host with
  | .opened address s => some (.ok address, s)
  | .failed fault => some (.error fault, s)
  | .pending address => timeout.map fun _ => (.error (tooLate address), s)

/-- A pool for a configuration, at a site. There is none where it would take for ever to build. -/
def buildPool (s : Site) (config : Config) : Option (Except Fault Pool × Site) :=
  Pool.build (dial (config.connectTimeout.map UInt64.toNat)) config s

end Site

/-- A client in a network. -/
structure Deployment where
  client : Client
  site : Site

namespace Deployment

/-- A client at a site that knows no hosts. -/
def hostless (s : Site) : Deployment where
  client := { pool := { maxTotal := 0, opening := {} } }
  site := s

/-- A client for a configuration, at a site. There is none where it would take for ever to build. -/
def ofConfig (s : Site) (config : Config) : Option (Except Fault Deployment) :=
  (s.buildPool config).map fun (built, site) =>
    built.map fun pool =>
      { client := { pool, operationTimeout := config.operationTimeout }, site }

/-- Something happens to the client. -/
def step (d : Deployment) (input : Client.Input) : Deployment :=
  { d with client := d.client.step input }

/-- What the call of a number waits for. -/
def wait? (d : Deployment) (number : Nat) : Option Call.Wait :=
  (d.client.calls[number]?).bind Call.wait?

/-- Lets a call run for at most `steps` steps, until it is over or waits for something that never
comes. -/
def settle (number : Nat) : (steps : Nat) → Deployment → Deployment
  | 0, d => d
  | steps + 1, d =>
    match d.wait? number with
    | none => d
    | some (.connection reservation) =>
      match d.site.reach d.client.pool.nextConnection reservation.host with
      | .opened address site =>
        settle number steps ({ d with site }.step (.connected number (.ok address)))
      | .failed fault => settle number steps (d.step (.connected number (.error fault)))
      | .pending _ => d
    | some (.transport connection capacity await) =>
      match d.site.network.ask connection capacity await with
      | some (completion, network) =>
        settle number steps
          ({ d with site := { d.site with network } }.step (.completed number completion))
      | none => d

/-- How many steps a call takes at most: one to connect, one to write and one to flush its request,
and as many as there may be reads. -/
def callSteps (d : Deployment) : Nat := d.site.network.reads + 4

/-- Lets time pass until what a call waits for is cut off, by its deadline or by its caller, who may
drop it after so many milliseconds. -/
def cutOff (d : Deployment) (number : Nat) (cancellation : Option Nat) : Deployment :=
  match d.wait? number with
  | none => d
  | some (.connection reservation) =>
    match d.site.reach d.client.pool.nextConnection reservation.host with
    | .pending address =>
      let deadline := d.client.pool.opening.timeout.map UInt64.toNat
      match Limits.cut? { deadline, cancellation } with
      | some .deadline => d.step (.connected number (.error (Site.tooLate address)))
      | some .caller => d.step (.cancelled number)
      | none => d
    | _ => d
  | some (.transport ..) =>
    let deadline := d.client.operationTimeout.map UInt64.toNat
    match Limits.cut? { deadline, cancellation } with
    | some .deadline => d.step (.expired number)
    | some .caller => d.step (.cancelled number)
    | none => d

/-- Makes a call and lets it run to its end: the deployment and the call after it. -/
def call (d : Deployment) (request : Request) (delivery : Delivery)
    (cancellation : Option Nat := none) : Deployment × Option Call :=
  let number := d.client.calls.length
  let d := d.step (.made request delivery)
  let d := (settle number d.callSteps d).cutOff number cancellation
  (d, d.client.calls[number]?)

/-- Makes a call and waits for its answer. There is none where the caller drops the call. -/
def execute (d : Deployment) (request : Request) (cancellation : Option Nat := none) :
    Deployment × Option (Except Fault Response) :=
  let (d, call) := d.call request .merged cancellation
  (d, call.bind Call.answer?)

/-- Takes the requests that scripted servers have seen. -/
def takeSeen (d : Deployment) : List Frame × Deployment :=
  (d.site.network.seen,
    { d with site := { d.site with network := { d.site.network with seen := [] } } })

end Deployment

end StoreClient.Simulation
