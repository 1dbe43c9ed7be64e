import StoreClient.Simulation.Deployment

/-!
# Borrowing from a pool

A borrower checks connections out of a pool at a site and holds on to them. Some checkouts are left
waiting: for the address of a host whose name is held up, or for a server that neither accepts nor
refuses connections. They can be finished or cancelled later.
-/

namespace StoreClient.Simulation

open Operation (Event)

/-- A borrower. What it holds and what waits is known by numbers, counted from zero. -/
structure Borrower where
  pool : Pool
  site : Site
  /-- The hosts whose addresses are not told before a checkout is finished. -/
  heldUp : List HostId := []
  /-- The connections that were lent, less those given back. -/
  held : List (Option Pool.Pooled) := []
  /-- The checkouts that were left waiting, less those over. -/
  waiting : List (Option Pool.Reservation) := []
  /-- The numbers of the connections that were lent, in the order in which they were lent first. -/
  known : List Nat := []

namespace Borrower

/-- A lent connection, as the borrower knows it. -/
structure Loan where
  handle : Nat
  connection : Connection
  /-- How many other connections were lent before it for the first time. -/
  ordinal : Nat
  /-- Whether it is lent for the first time. -/
  fresh : Bool

/-- What comes of a checkout. -/
inductive Got where
  | lent (loan : Loan)
  | refused (fault : Fault)
  /-- It waits, under this number. -/
  | waiting (number : Nat)

/-- Holds a connection that was lent. -/
def hold (b : Borrower) (pooled : Pool.Pooled) : Borrower × Got :=
  let id := pooled.connection.id
  let fresh := id ∉ b.known
  let known := if fresh then b.known ++ [id] else b.known
  ({ b with held := b.held ++ [some pooled], known },
    .lent
      { handle := b.held.length
        connection := pooled.connection
        ordinal := known.idxOf id
        fresh })

/-- Leaves a checkout waiting. -/
def leaveWaiting (b : Borrower) (reservation : Pool.Reservation) : Borrower × Got :=
  ({ b with waiting := b.waiting ++ [some reservation] }, .waiting b.waiting.length)

/-- Ends a checkout that failed. -/
def giveUp (b : Borrower) (reservation : Pool.Reservation) (fault : Fault) : Borrower × Got :=
  ({ b with pool := b.pool.release reservation }, .refused fault)

/-- Opens the connection of a checkout. Where nothing ever comes of it, the time for connecting runs
out, if it is limited and `patient`; the checkout waits otherwise. -/
def openFor (b : Borrower) (reservation : Pool.Reservation) (patient : Bool) : Borrower × Got :=
  match b.site.reach b.pool.nextConnection reservation.host with
  | .failed fault => b.giveUp reservation fault
  | .pending address =>
    if patient && b.pool.opening.timeout.isSome then
      b.giveUp reservation (Site.tooLate address)
    else b.leaveWaiting reservation
  | .opened address site =>
    let (pooled, pool) := b.pool.connected reservation address
    { b with pool, site }.hold pooled

/-- Checks a connection out. -/
def get (b : Borrower) : Borrower × Got :=
  match b.pool.checkOut with
  | (.refused fault, pool) => ({ b with pool }, .refused fault)
  | (.ready pooled, pool) => { b with pool }.hold pooled
  | (.connecting reservation, pool) => { b with pool }.openFor reservation true

/-- Begins to check a connection out, and leaves the checkout waiting if it has to wait. -/
def beginGet (b : Borrower) : Borrower × Got :=
  match b.pool.checkOut with
  | (.refused fault, pool) => ({ b with pool }, .refused fault)
  | (.ready pooled, pool) => { b with pool }.hold pooled
  | (.connecting reservation, pool) =>
    let b := { b with pool }
    if reservation.host ∈ b.heldUp then b.leaveWaiting reservation
    else b.openFor reservation false

/-- The reservation of a checkout that waits, which waits no more. -/
def resume? (b : Borrower) (number : Nat) : Option (Pool.Reservation × Borrower) :=
  (b.waiting[number]?.join).map fun reservation =>
    (reservation, { b with waiting := b.waiting.set number none })

/-- Finishes a checkout that waits. -/
def finishGet (b : Borrower) (number : Nat) : Option (Borrower × Got) :=
  (b.resume? number).map fun (reservation, b) => b.openFor reservation true

/-- Cancels a checkout that waits. -/
def cancelGet (b : Borrower) (number : Nat) : Option Borrower :=
  (b.resume? number).map fun (reservation, b) => { b with pool := b.pool.release reservation }

/-- The connection that is held under a number. -/
def held? (b : Borrower) (handle : Nat) : Option Pool.Pooled := b.held[handle]?.join

/-- Gives a connection back. -/
def giveBack (b : Borrower) (handle : Nat) : Option Borrower :=
  (b.held? handle).map fun pooled =>
    { b with pool := b.pool.giveBack pooled, held := b.held.set handle none }

/-- Replaces a held connection by what has become of it. -/
def replace (b : Borrower) (handle : Nat) (pooled : Pool.Pooled) (connection : Connection) :
    Borrower :=
  { b with held := b.held.set handle (some { pooled with connection }) }

/-- Carries a request over a held connection. -/
def carry (b : Borrower) (handle : Nat) (request : Request) (limits : Limits) :
    Option (Story × Connection × Borrower) :=
  (b.held? handle).map fun pooled =>
    let line : NetworkLine := { network := b.site.network, connection := pooled.connection.id }
    let (story, connection, line) :=
      tell pooled.connection (.ofRequest request .merged) [] line limits 1
    (story, connection,
      { b with site := { b.site with network := line.network } }.replace handle pooled connection)

/-- Closes a held connection. -/
def close (b : Borrower) (handle : Nat) : Option (Connection × Borrower) :=
  (b.held? handle).map fun pooled =>
    let connection := pooled.connection.close
    (connection, b.replace handle pooled connection)

/-- The ages of the held connections: how much later than the oldest of them each was opened. -/
def ages (b : Borrower) : List (Option Nat) :=
  let ids := b.held.map fun pooled => pooled.map (·.connection.id)
  let oldest := ((ids.filterMap id).min?).getD 0
  ids.map fun id => id.map (· - oldest)

end Borrower

end StoreClient.Simulation
