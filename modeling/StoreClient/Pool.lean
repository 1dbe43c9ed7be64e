import StoreClient.Config
import StoreClient.Connection

/-!
# Connection pools

A pool lends connections to callers and takes them back. It opens new ones only up to its capacity,
one host after the other in the order of the hosts, and keeps what can be used again.

    total = available + in use + pending         (pending: being connected)
    total ≤ maxTotal                             (where maxTotal is not 0)
    opened ≤ maxConnections, for each slot       (where maxConnections is not 0)

A checkout that has to connect takes several steps, between which other callers may come: it
reserves room (`reserve?`), connects, gives the reservation up for the connection (`consume`) and
enters the connection in the books (`enlist`); or it gives the reservation back (`release`). Each of
these steps is a function here, and so is everything else that happens to a pool at once.
-/

namespace StoreClient

namespace Pool

/-- A host as the pool knows it. The key tells a host that was removed and added again from what it
was before. -/
structure Slot where
  key : Nat
  config : HostConfig
  /-- How many of its connections are idle, lent or reserved. -/
  opened : Nat := 0
  deriving DecidableEq, Repr

/-- Whether one more connection to the host may be opened. -/
def Slot.hasCapacity (s : Slot) : Bool :=
  s.config.maxConnections = 0 ∨ s.opened < s.config.maxConnections.toNat

/-- A connection of the pool, with the key of the slot that it counts for. -/
structure Pooled where
  slot : Nat
  connection : Connection
  deriving DecidableEq, Repr

/-- A lent connection as reports show it. -/
def Pooled.describe (p : Pooled) : String :=
  s!"PooledConnection \x7b conn: Some({p.connection.describe}) \x7d"

/-- Room for a connection that is being opened. -/
structure Reservation where
  slot : Nat
  host : HostId
  deriving DecidableEq, Repr

/-- How connections are opened. -/
structure Opening where
  /-- How long connecting may take, in milliseconds. -/
  timeout : Option UInt64 := none
  /-- Whether small packets are sent at once. -/
  nodelay : Bool := true
  /-- The longest frame that is accepted. -/
  maxFrameLength : UInt32 := Frame.defaultMaxLength
  deriving DecidableEq, Repr

/-- The numbers of connections in each role. -/
structure Stats where
  available : Nat
  inUse : Nat
  pending : Nat
  total : Nat
  hosts : Nat
  deriving DecidableEq, Repr

end Pool

/-- A connection pool. -/
structure Pool where
  /-- How many connections there may be in all; zero for any number. -/
  maxTotal : Nat
  opening : Pool.Opening
  /-- The hosts in the order in which they take turns. -/
  slots : List Pool.Slot := []
  /-- The idle connections, the longest idle one first. -/
  available : List Pool.Pooled := []
  /-- The numbers of the lent connections, each with the key of its slot. -/
  inUse : List (Nat × Nat) := []
  /-- How many connections are being opened. -/
  pending : Nat := 0
  /-- The position of the slot whose turn is next. -/
  cursor : Nat := 0
  /-- The key of the next slot. -/
  nextKey : Nat := 0
  /-- The number of the next connection. -/
  nextConnection : Nat := 1
  closed : Bool := false
  deriving DecidableEq, Repr

namespace Pool

/-! ### Looking at a pool -/

/-- The number of connections, with those that are being opened. -/
def total (p : Pool) : Nat := p.available.length + p.inUse.length + p.pending

/-- The slot with a key, unless its host was removed. -/
def slot? (p : Pool) (key : Nat) : Option Slot := p.slots.find? (·.key = key)

/-- The configured hosts, in their order. -/
def hosts (p : Pool) : List HostConfig := p.slots.map (·.config)

/-- The numbers of connections in each role. -/
def stats (p : Pool) : Stats where
  available := p.available.length
  inUse := p.inUse.length
  pending := p.pending
  total := p.total
  hosts := p.slots.length

/-! ### Hosts -/

/-- Adds a host behind the others. -/
def addHost (p : Pool) (config : HostConfig) : Except Fault Pool :=
  if config.id ∈ p.hosts.map HostConfig.id then
    .error (.configuration (.alreadyConfigured config.id))
  else
    .ok { p with
      slots := p.slots ++ [{ key := p.nextKey, config }]
      nextKey := p.nextKey + 1 }

/-- Adds hosts in turn. -/
def addHosts (p : Pool) (configs : List HostConfig) : Except Fault Pool :=
  configs.foldlM addHost p

/-- Where the cursor stands among `count` slots after the slot at `position` has gone: with the slot
that it pointed at, or at the beginning if there is none. -/
def cursorAfterRemoval (cursor position count : Nat) : Nat :=
  let cursor := if position < cursor then cursor - 1 else cursor
  if count = 0 then 0 else cursor % count

/-- Removes a host and drops its idle connections. The lent ones are dropped when they come back. -/
def removeHost (p : Pool) (id : HostId) : Except Fault Pool :=
  match p.slots.findIdx? (·.config.id = id) with
  | none => .error (.notFound id.host id.port)
  | some position =>
    let slots := p.slots.eraseIdx position
    let removed := p.slots[position]?.map (·.key)
    .ok { p with
      slots
      cursor := cursorAfterRemoval p.cursor position slots.length
      available := p.available.filter (fun idle => some idle.slot ≠ removed) }

/-! ### Checking out -/

/-- The slots with their positions, in the order in which they take turns from now on. -/
def turns (p : Pool) : List (Nat × Slot) :=
  (List.range p.slots.length).filterMap fun step =>
    let position := (p.cursor + step) % p.slots.length
    p.slots[position]?.map (position, ·)

/-- Whether there may be one more connection. -/
def hasCapacity (p : Pool) : Bool := p.maxTotal = 0 ∨ p.total < p.maxTotal

/-- Reserves room for a connection to the next host that has room. -/
def reserve? (p : Pool) : Option (Reservation × Pool) :=
  if p.closed then none
  else if !p.hasCapacity then none
  else
    match p.turns.find? (·.2.hasCapacity) with
    | none => none
    | some (position, slot) =>
      some ({ slot := slot.key, host := slot.config.id },
        { p with
          slots := p.slots.set position { slot with opened := slot.opened + 1 }
          cursor := (position + 1) % p.slots.length
          pending := p.pending + 1 })

/-- Enters a lent connection in the books. -/
def enlist (p : Pool) (pooled : Pooled) : Pool :=
  { p with inUse := (pooled.connection.id, pooled.slot) :: p.inUse }

/-- Lends the connection that has been idle the longest, if there is one. -/
def takeIdle (p : Pool) : Except Fault (Option (Pooled × Pool)) :=
  if p.closed then .error .poolExhausted
  else
    match p.available with
    | [] => .ok none
    | pooled :: available => .ok (some (pooled, { p with available }.enlist pooled))

/-- How a checkout begins. -/
inductive Checkout where
  /-- An idle connection is lent. -/
  | ready (pooled : Pooled)
  /-- A connection is to be opened. -/
  | connecting (reservation : Reservation)
  | refused (fault : Fault)
  deriving DecidableEq, Repr

/-- Begins a checkout. It never waits for a connection to come back. -/
def checkOut (p : Pool) : Checkout × Pool :=
  match p.takeIdle with
  | .error fault => (.refused fault, p)
  | .ok (some (pooled, p)) => (.ready pooled, p)
  | .ok none =>
    match p.reserve? with
    | none => (.refused .poolExhausted, p)
    | some (reservation, p) => (.connecting reservation, p)

/-- The connection that a reservation was for, open at last. -/
def connection (p : Pool) (reservation : Reservation) (address : Address) : Pooled where
  slot := reservation.slot
  connection :=
    { Connection.ofStream p.nextConnection reservation.host p.opening.maxFrameLength with
      address := some address }

/-- Hands out the number of a connection that has been opened. -/
def number (p : Pool) : Pool := { p with nextConnection := p.nextConnection + 1 }

/-- Gives a reservation up for its connection. -/
def consume (p : Pool) : Pool := { p with pending := p.pending - 1 }

/-- Ends a checkout whose connection is open. -/
def connected (p : Pool) (reservation : Reservation) (address : Address) : Pooled × Pool :=
  let pooled := p.connection reservation address
  (pooled, (p.number.consume).enlist pooled)

/-- Counts one connection less for a slot, unless it is gone. -/
def forget (p : Pool) (slot : Nat) : Pool :=
  { p with
    slots := p.slots.map fun s => if s.key = slot then { s with opened := s.opened - 1 } else s }

/-- Gives a reservation back whose connection could not be opened. -/
def release (p : Pool) (reservation : Reservation) : Pool := p.consume.forget reservation.slot

/-! ### Giving back -/

/-- Keeps an idle connection. -/
def shelve (p : Pool) (pooled : Pooled) : Pool := { p with available := p.available ++ [pooled] }

/-- Whether a connection that comes back is kept. -/
def keeps (p : Pool) (pooled : Pooled) : Bool :=
  !p.closed && pooled.connection.isUsable && (p.slot? pooled.slot).isSome

/-- Takes a connection back: it becomes idle, or it is dropped and makes room. -/
def giveBack (p : Pool) (pooled : Pooled) : Pool :=
  let p := { p with inUse := p.inUse.filter (fun entry => entry.1 ≠ pooled.connection.id) }
  if p.keeps pooled then p.shelve pooled else p.forget pooled.slot

/-- Drops the idle connections and refuses checkouts from now on. -/
def close (p : Pool) : Pool := { p with closed := true, available := [] }

/-! ### Building a pool -/

/-- An empty pool for a configuration. -/
def ofConfig (config : Config) : Except Fault Pool := do
  config.validate
  let empty : Pool :=
    { maxTotal := config.maxTotal.toNat
      opening :=
        { timeout := config.connectTimeout
          nodelay := config.nodelay
          maxFrameLength := config.maxFrameLength } }
  empty.addHosts config.hosts

/-- Opens up to `count` connections ahead, as long as there is room. The first one that cannot be
opened ends it. `dial` opens a byte stream for the connection of a number and says where to. -/
def prefill {m : Type → Type} [Monad m] (dial : Nat → HostId → m (Except Fault Address)) :
    (count : Nat) → Pool → m (Except Fault Pool)
  | 0, p => pure (.ok p)
  | count + 1, p =>
    match p.reserve? with
    | none => pure (.ok p)
    | some (reservation, p) => do
      match ← dial p.nextConnection reservation.host with
      | .error fault => pure (.error fault)
      | .ok address =>
        let pooled := p.connection reservation address
        prefill dial count ((p.number.consume).shelve pooled)

/-- A pool for a configuration, with its connections open if they are to be opened ahead. There are
never more of them than `maxTotal`, which then is not zero. -/
def build {m : Type → Type} [Monad m] (dial : Nat → HostId → m (Except Fault Address))
    (config : Config) : m (Except Fault Pool) :=
  match ofConfig config with
  | .error fault => pure (.error fault)
  | .ok p => if config.lazyConnect then pure (.ok p) else prefill dial p.maxTotal p

end Pool

end StoreClient
