import StoreClient.Address
import StoreClient.Fault

/-!
# Resolvers

Where the address of a host comes from: a fixed table, or the host name itself, which then has to be
the literal of an IP address.
-/

namespace StoreClient

/-- A source of addresses. -/
inductive Resolver where
  /-- A table of hosts. An entry hides those behind it for the same host. -/
  | table (entries : List (HostId × Address))
  /-- Host names are IP literals; a name service is not asked. -/
  | literals
  deriving DecidableEq, Repr

namespace Resolver

/-- A table without entries. -/
def empty : Resolver := table []

/-- The resolver with one more entry, which counts before any other for its host. -/
def insert (r : Resolver) (id : HostId) (address : Address) : Resolver :=
  match r with
  | table entries => table ((id, address) :: entries)
  | literals => literals

/-- The address of a host. -/
def resolve (r : Resolver) (id : HostId) : Except Fault Address :=
  match r with
  | table entries =>
    match entries.lookup id with
    | some address => .ok address
    | none => .error (.unresolved id.host id.port .noEntry)
  | literals =>
    match IPAddress.ofText? id.host with
    | some ip => .ok ⟨ip, id.port⟩
    | none =>
      .error (.unresolved id.host id.port
        (.other "failed to lookup address information: Name or service not known"))

end Resolver

end StoreClient
