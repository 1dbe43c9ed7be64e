import StoreClient.Fault
import StoreClient.Frame

/-!
# Configuration

The members of the cluster and the limits under which connections and operations run. Zero stands
for "no limit" in the two connection counts. `Config.validate` refuses what could never work.
-/

namespace StoreClient

/-- A cluster member. -/
structure HostConfig where
  host : String
  port : UInt16
  /-- How many connections to it may be open; zero for any number. -/
  maxConnections : UInt64 := 0
  deriving DecidableEq, Repr, Inhabited

/-- The identity of a cluster member. -/
def HostConfig.id (h : HostConfig) : HostId := ⟨h.host, h.port⟩

/-- The configuration of a client. Times are in milliseconds. -/
structure Config where
  /-- The members, in the order in which they take turns. -/
  hosts : List HostConfig := [{ host := "127.0.0.1", port := 8087 }]
  /-- How many connections may be open in all; zero for any number. -/
  maxTotal : UInt64 := 16
  /-- Whether connections are opened when they are needed, and not ahead. -/
  lazyConnect : Bool := true
  connectTimeout : Option UInt64 := none
  operationTimeout : Option UInt64 := none
  /-- The longest frame that is accepted. -/
  maxFrameLength : UInt32 := Frame.defaultMaxLength
  /-- Whether small packets are sent at once. -/
  nodelay : Bool := true
  deriving DecidableEq, Repr, Inhabited

namespace Config

/-- The port on which servers are expected. -/
def defaultPort : UInt16 := 8087

/-- The default configuration for a cluster of one. -/
def single (host : String) (port : UInt16) : Config := { hosts := [{ host, port }] }

/-- Checks that hosts have names and differ from each other and from those seen before; `position`
is that of the first one. -/
def checkHosts : (position : Nat) → (seen : List HostId) → List HostConfig → Except Fault Unit
  | _, _, [] => .ok ()
  | position, seen, h :: rest =>
    if h.host = "" then .error (.configuration (.emptyName position))
    else if h.id ∈ seen then .error (.configuration (.duplicateHost h.id))
    else checkHosts (position + 1) (h.id :: seen) rest

/-- Checks that a client can work with the configuration. -/
def validate (c : Config) : Except Fault Unit := do
  if c.hosts = [] then
    throw (.configuration .noHosts)
  checkHosts 0 [] c.hosts
  if c.lazyConnect = false ∧ c.maxTotal = 0 then
    throw (.configuration .unboundedPrefill)
  if c.maxFrameLength = 0 then
    throw (.configuration .zeroFrameLength)

end Config

end StoreClient
