import StoreClient.Client.Typed
import StoreClient.Config
import StoreClient.Text.Number

/-!
# Probes

A probe checks that a server answers: it sends some pings, asks the server who it is, and has its
buckets listed. It reports what it finds, and stops at the first thing that fails.
-/

namespace StoreClient

/-- What a probe is to do. -/
structure Probe where
  host : String
  port : UInt16
  /-- How many pings are sent. -/
  pings : Nat
  deriving DecidableEq, Repr

namespace Probe

/-! ### Failures -/

/-- Why a probe failed: what it was about to do, and the causes, each one that of the one before. -/
structure Failure where
  attempt : String
  causes : List String := []
  deriving DecidableEq, Repr

namespace Failure

/-- The failure of something that a fault has kept from being done. A fault that comes from the
transport has the transport's own words as its cause. -/
def ofFault (attempt : String) (fault : Fault) : Failure where
  attempt := attempt
  causes := fault.message :: fault.transportCause?.toList

/-- A text behind a margin. Further lines stand below the first one. -/
def indented (margin : String) (text : String) : String :=
  let blanks := String.ofList (List.replicate margin.length ' ')
  margin ++ ("\n" ++ blanks).intercalate (text.splitOn "\n")

/-- The margin of the cause at a position, where causes are numbered. -/
def numberedMargin (position : Nat) : String :=
  let digits := toString position
  String.ofList (List.replicate (5 - digits.length) ' ') ++ digits ++ ": "

/-- The lines of the causes. Where there are several, they are numbered from zero. -/
def causeLines (causes : List String) : List String :=
  match causes with
  | [cause] => [indented "    " cause]
  | causes => causes.mapIdx fun position cause => indented (numberedMargin position) cause

/-- The failure as it is reported to the user. -/
def text (f : Failure) : String :=
  let causes := causeLines f.causes
  let story := if causes = [] then [] else "" :: "Caused by:" :: causes
  String.join ((s!"Error: {f.attempt}" :: story).map (· ++ "\n"))

end Failure

/-! ### Arguments -/

/-- The target where none is given. -/
def defaultTarget : String := "127.0.0.1:8087"

/-- The number of pings where none is given, or no number. -/
def defaultPings : Nat := 10

/-- A target taken apart at its last colon: what is in front of it and what is behind it. -/
def splitTarget? (target : List Char) : Option (List Char × List Char) :=
  let behind := (target.reverse.takeWhile (· ≠ ':')).reverse
  if behind.length = target.length then none
  else some (target.take (target.length - behind.length - 1), behind)

/-- The host and the port of a target. Without colon it is the name of a host. -/
def readTarget (target : String) : Except Failure (String × UInt16) :=
  match splitTarget? target.toList with
  | none => .ok (target, Config.defaultPort)
  | some (host, port) =>
    match Decimal.read 0x10000 port with
    | .ok port => .ok (String.ofList host, UInt16.ofNat port)
    | .error cause =>
      .error { attempt := s!"invalid port in {target}", causes := [cause.message] }

/-- The number of pings, below 2^64. -/
def readPings (arg : Option String) : Nat :=
  match arg.map fun text => Decimal.read 0x10000000000000000 text.toList with
  | some (.ok n) => n
  | _ => defaultPings

/-- The probe that the arguments ask for. Arguments behind the second one are ignored. -/
def ofArgs (args : List String) : Except Failure Probe := do
  let (host, port) ← readTarget (args.head?.getD defaultTarget)
  if host = "" then
    throw { attempt := "empty host name" }
  return { host, port, pings := readPings args[1]? }

/-- The configuration of the client that a probe uses. -/
def config (p : Probe) : Config := .single p.host p.port

/-! ### Findings -/

/-- How long pings took, in microseconds. -/
structure Timing where
  average : Nat
  longest : Nat
  deriving DecidableEq, Repr

/-- What a probe has found. -/
inductive Finding where
  | roundTrips (pings : Nat) (timing : Option Timing)
  | identity (node version : Bytes)
  | buckets (count : Nat)
  deriving DecidableEq, Repr

/-- A finding as it is reported to the user. -/
def Finding.text : Finding → String
  | roundTrips pings none => s!"ping round trips pings={pings}"
  | roundTrips pings (some timing) =>
    s!"ping round trips pings={pings} avg_us={timing.average} max_us={timing.longest}"
  | identity node version =>
    s!"server identified node={Utf8.decode node} version={Utf8.decode version}"
  | buckets count => s!"buckets listed count={count}"

/-- What a probe reports: its findings in turn and its failure, if it failed. -/
structure Report where
  findings : List Finding := []
  failure : Option Failure := none
  deriving DecidableEq, Repr

/-- The exit status of a probe. -/
def Report.status (r : Report) : UInt32 := if r.failure.isSome then 1 else 0

/-! ### Running -/

/-- What a probe runs on: how a request is answered, and what the time is in microseconds, where
somebody knows. -/
structure Runner (m : Type → Type) where
  execute : Request → m (Except Fault Response)
  clock : m (Option Nat)

variable {m : Type → Type} [Monad m]

/-- Makes a typed call. -/
def Runner.call {α : Type} (r : Runner m) (c : TypedCall α) (attempt : String) :
    ExceptT Failure m α := do
  match c.read (← r.execute c.request) with
  | .ok value => return value
  | .error fault => throw (.ofFault attempt fault)

/-- Sends pings and gives the times that they took. -/
def ping (r : Runner m) (p : Probe) : (count : Nat) → ExceptT Failure m (List (Option Nat))
  | 0 => return []
  | count + 1 => do
    let start ← r.clock
    r.call TypedCall.ping s!"ping {p.host}:{p.port}"
    let stop ← r.clock
    let times ← ping r p count
    return (do return (← stop) - (← start)) :: times

/-- The average and the longest of some times, if all are known. -/
def timing (times : List (Option Nat)) : Option Timing := do
  let times ← times.mapM id
  return { average := times.foldl (· + ·) 0 / times.length, longest := times.foldl max 0 }

/-- Sends the pings. -/
def roundTrips (r : Runner m) (p : Probe) : ExceptT Failure m (List Finding) := do
  let times ← ping r p p.pings
  return if p.pings = 0 then [] else [.roundTrips p.pings (timing times)]

/-- Asks the server who it is. -/
def identify (r : Runner m) : ExceptT Failure m (List Finding) := do
  let info ← r.call TypedCall.serverInfo "server info"
  return [.identity (info.node.getD []) (info.serverVersion.getD [])]

/-- Has the buckets listed. -/
def countBuckets (r : Runner m) : ExceptT Failure m (List Finding) := do
  let buckets ← r.call TypedCall.listBuckets "list buckets"
  return [.buckets buckets.length]

/-- Takes steps in turn up to the first one that fails. -/
def takeSteps : List (ExceptT Failure m (List Finding)) → m Report
  | [] => return {}
  | step :: steps => do
    match ← step.run with
    | .error failure => return { failure := some failure }
    | .ok findings =>
      let rest ← takeSteps steps
      return { rest with findings := findings ++ rest.findings }

/-- Runs a probe. -/
def run (r : Runner m) (p : Probe) : m Report :=
  takeSteps [roundTrips r p, identify r, countBuckets r]

/-- Runs the probe that the arguments ask for. `connect` makes a client for a configuration. -/
def runArgs (args : List String) (connect : Config → m (Except Fault (Runner m))) : m Report := do
  match ofArgs args with
  | .error failure => return { failure := some failure }
  | .ok p =>
    match ← connect p.config with
    | .error fault => return { failure := some (.ofFault "failed to build client" fault) }
    | .ok r => run r p

end Probe

end StoreClient
