/-!
# Hosts

A cluster member is known by its host name and service port.
-/

namespace StoreClient

/-- The identity of a cluster member. -/
structure HostId where
  host : String
  port : UInt16
  deriving DecidableEq, Repr, Inhabited

namespace HostId

/-- The identity in the form `host:port`. -/
def text (id : HostId) : String := s!"{id.host}:{id.port}"

end HostId

end StoreClient
