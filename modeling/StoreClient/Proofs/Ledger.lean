import Mathlib
import StoreClient.Proofs.Pool

/-!
# Ledgers

A ledger is a pool together with the connections that are lent from it and the reservations that are
held of it. Callers check connections out and give them back, connections are opened or are not, hosts
come and go and the pool may be closed (`Ledger.Input`), in any order.

Whatever happens, the counts of the pool are exact (`accounting_exact`). `happens_step` says once what
comes of an input. Each input keeps the books (`Kept.step`), and so do all of them in turn (`Kept.run`).
-/

namespace StoreClient

open Pool (Pooled Reservation Slot Books)

/-- A pool with what is lent and reserved of it. -/
structure Ledger where
  pool : Pool
  /-- The lent connections, as they were when they were lent. -/
  guards : List Pooled := []
  reservations : List Reservation := []

namespace Ledger

/-- Something that happens to a pool. Guards and reservations are known by their positions. -/
inductive Input where
  /-- A checkout begins. -/
  | begun
  /-- The connection of a reservation is open. -/
  | connected (reservation : Nat) (address : Address)
  /-- The connection of a reservation could not be opened, or nobody waits for it any more. -/
  | released (reservation : Nat)
  /-- A guard is given back. The connection may have become any other with its number. -/
  | returned (guard : Nat) (connection : Connection)
  | hostAdded (config : HostConfig)
  | hostRemoved (id : HostId)
  | closed

/-- What a guard is for, given back with what has become of its connection. -/
def become (guard : Pooled) (connection : Connection) : Pooled :=
  { guard with connection := { connection with id := guard.connection.id } }

/-- What happens next. What is not there is neither connected, released nor returned. -/
def step (l : Ledger) : Input → Ledger
  | .begun =>
    match l.pool.checkOut with
    | (.ready pooled, pool) => { l with pool, guards := pooled :: l.guards }
    | (.connecting reservation, pool) =>
      { l with pool, reservations := reservation :: l.reservations }
    | (.refused _, pool) => { l with pool }
  | .connected i address =>
    match l.reservations[i]? with
    | some reservation =>
      let (pooled, pool) := l.pool.connected reservation address
      { pool, guards := pooled :: l.guards, reservations := l.reservations.eraseIdx i }
    | none => l
  | .released i =>
    match l.reservations[i]? with
    | some reservation =>
      { l with pool := l.pool.release reservation, reservations := l.reservations.eraseIdx i }
    | none => l
  | .returned i connection =>
    match l.guards[i]? with
    | some guard =>
      { l with pool := l.pool.giveBack (become guard connection), guards := l.guards.eraseIdx i }
    | none => l
  | .hostAdded config =>
    match l.pool.addHost config with
    | .ok pool => { l with pool }
    | .error _ => l
  | .hostRemoved id =>
    match l.pool.removeHost id with
    | .ok pool => { l with pool }
    | .error _ => l
  | .closed => { l with pool := l.pool.close }

/-- What happens in turn. -/
def run (l : Ledger) (inputs : List Input) : Ledger := inputs.foldl step l

/-- What comes of an input: it is refused or about what is not there, or it does its part. -/
inductive Happens (l : Ledger) : Input → Ledger → Prop where
  | nothing {input : Input} : Happens l input l
  | lent {pooled : Pooled} {pool : Pool} :
    l.pool.takeIdle = .ok (some (pooled, pool)) →
    Happens l .begun { l with pool, guards := pooled :: l.guards }
  | reserved {r : Reservation} {pool : Pool} :
    l.pool.reserve? = some (r, pool) →
    Happens l .begun { l with pool, reservations := r :: l.reservations }
  | connected {i : Nat} {address : Address} {r : Reservation} :
    l.reservations[i]? = some r →
    Happens l (.connected i address)
      { pool := (l.pool.connected r address).2
        guards := (l.pool.connected r address).1 :: l.guards
        reservations := l.reservations.eraseIdx i }
  | released {i : Nat} {r : Reservation} :
    l.reservations[i]? = some r →
    Happens l (.released i)
      { l with pool := l.pool.release r, reservations := l.reservations.eraseIdx i }
  | returned {i : Nat} {connection : Connection} {guard : Pooled} :
    l.guards[i]? = some guard →
    Happens l (.returned i connection)
      { l with pool := l.pool.giveBack (become guard connection), guards := l.guards.eraseIdx i }
  | hostAdded {config : HostConfig} {pool : Pool} :
    l.pool.addHost config = .ok pool →
    Happens l (.hostAdded config) { l with pool }
  | hostRemoved {id : HostId} {pool : Pool} :
    l.pool.removeHost id = .ok pool →
    Happens l (.hostRemoved id) { l with pool }
  | closed : Happens l .closed { l with pool := l.pool.close }

/-- Every step is one of these. -/
lemma happens_step (l : Ledger) (input : Input) : Happens l input (l.step input) := by
  cases input with
  | begun =>
    have begun := l.pool.checkOut_begun
    simp only [step]
    generalize l.pool.checkOut = checkout at begun
    cases begun with
    | refused => exact .nothing
    | ready taken => exact .lent taken
    | connecting reserved => exact .reserved reserved
  | connected i address =>
    simp only [step]
    cases here : l.reservations[i]? with
    | none => exact .nothing
    | some r => exact .connected here
  | released i =>
    simp only [step]
    cases here : l.reservations[i]? with
    | none => exact .nothing
    | some r => exact .released here
  | returned i connection =>
    simp only [step]
    cases here : l.guards[i]? with
    | none => exact .nothing
    | some guard => exact .returned here
  | hostAdded config =>
    simp only [step]
    cases added : l.pool.addHost config with
    | error fault => exact .nothing
    | ok pool => exact .hostAdded added
  | hostRemoved id =>
    simp only [step]
    cases removed : l.pool.removeHost id with
    | error fault => exact .nothing
    | ok pool => exact .hostRemoved removed
  | closed => exact .closed

/-- How many connections of the slot of a key there are: idle, lent and being opened. -/
def count (l : Ledger) (key : Nat) : Nat :=
  (l.pool.available.map (·.slot)).count key + (l.guards.map (·.slot)).count key
    + (l.reservations.map (·.slot)).count key

/-- The counts of the pool are exact and within the limits of the configuration. -/
structure Exact (config : Config) (l : Ledger) : Prop where
  pending : l.pool.pending = l.reservations.length
  inUse : l.pool.inUse.Perm (l.guards.map fun g => (g.connection.id, g.slot))
  distinct : (l.pool.available.map (·.connection.id) ++ l.guards.map (·.connection.id)).Nodup
  opened : l.pool.closed = false → ∀ s ∈ l.pool.slots, s.opened = l.count s.key
  /-- What is there can be counted down, also once the pool is closed. -/
  positive :
    (l.reservations ≠ [] → 0 < l.pool.pending) ∧
      ∀ s ∈ l.pool.slots, s.key ∈ l.guards.map (·.slot) ++ l.reservations.map (·.slot) →
        0 < s.opened
  total : 0 < config.maxTotal →
    l.pool.available.length + l.pool.inUse.length + l.pool.pending ≤ config.maxTotal.toNat
  limited : ∀ s ∈ l.pool.slots, 0 < s.config.maxConnections →
    s.opened ≤ s.config.maxConnections.toNat
  keys : (l.pool.slots.map (·.key)).Nodup
  idle : ∀ i ∈ l.pool.available,
    i.connection.isUsable = true ∧ ∃ s ∈ l.pool.slots, s.key = i.slot

/-- The books of the pool are kept. -/
def Kept (limit : Nat) (l : Ledger) : Prop :=
  Books limit l.pool (l.guards.map fun g => (g.connection.id, g.slot))
    (l.reservations.map (·.slot))

variable {limit : Nat} {l : Ledger}

/-- The books with a guard before the others. -/
lemma Kept.guard (h : l.Kept limit) {i : Nat} {guard : Pooled} (here : l.guards[i]? = some guard) :
    Books limit l.pool
      ((guard.connection.id, guard.slot) ::
        (l.guards.eraseIdx i).map fun g => (g.connection.id, g.slot))
      (l.reservations.map (·.slot)) := by
  obtain ⟨inside, rfl⟩ := List.getElem?_eq_some_iff.1 here
  have first := List.getElem_cons_eraseIdx_perm inside
  exact Books.perm h (first.symm.map fun g => (g.connection.id, g.slot)) (.refl _)

/-- The books with a reservation before the others. -/
lemma Kept.reservation (h : l.Kept limit) {i : Nat} {r : Reservation}
    (here : l.reservations[i]? = some r) :
    Books limit l.pool (l.guards.map fun g => (g.connection.id, g.slot))
      (r.slot :: (l.reservations.eraseIdx i).map (·.slot)) := by
  obtain ⟨inside, rfl⟩ := List.getElem?_eq_some_iff.1 here
  have first := List.getElem_cons_eraseIdx_perm inside
  exact Books.perm h (.refl _) (first.symm.map (·.slot))

/-- Whatever happens keeps the books. -/
lemma Kept.step (h : l.Kept limit) (input : Input) : (l.step input).Kept limit := by
  have happens := happens_step l input
  generalize l.step input = l' at happens ⊢
  cases happens with
  | nothing => exact h
  | lent taken => exact Books.takeIdle h taken
  | reserved reserved => exact Books.reserve h reserved
  | @connected i address r here => exact (h.reservation here).connected address
  | released here => exact (h.reservation here).release
  | @returned i connection guard here =>
    have back := h.guard here
    change Books limit l.pool (((become guard connection).connection.id, _) :: _) _ at back
    exact back.giveBack
  | hostAdded added => exact Books.addHost h added
  | hostRemoved removed => exact Books.removeHost h removed
  | closed => exact Books.close h

/-- Whatever happens in turn keeps the books. -/
lemma Kept.run (h : l.Kept limit) (inputs : List Input) : (l.run inputs).Kept limit := by
  induction inputs generalizing l with
  | nil => exact h
  | cons input inputs ih => exact ih (h.step input)

/-- Where the books are kept, the counts are exact. -/
lemma Kept.exact {config : Config} (h : l.Kept config.maxTotal.toNat) : l.Exact config := by
  have entries (key : Nat) : (l.pool.entries (l.guards.map fun g => (g.connection.id, g.slot))
      (l.reservations.map (·.slot))).count key = l.count key := by
    simp [Pool.entries, Ledger.count, Function.comp_def, Nat.add_assoc]
  refine ⟨by simpa using h.pending, h.inUse, ?_, ?_, ⟨?_, ?_⟩, ?_, ?_, h.balanced.distinct, ?_⟩
  · simpa [Pool.numbers, Function.comp_def] using h.distinct
  · intro open_ s m
    rw [h.balanced.even open_ s m, entries]
  · intro some_
    rw [h.pending, List.length_map]
    exact List.length_pos_iff.2 some_
  · intro s m lent
    -- Once the pool is closed the counts are no longer even, but they still cover what is there.
    have covered := h.balanced.covered s m
    refine Nat.lt_of_lt_of_le (List.count_pos_iff.2 ?_) covered
    apply List.mem_append_right
    simpa [Function.comp_def] using lent
  · intro limited
    have room := h.room
    have positive : 0 < config.maxTotal.toNat := UInt64.lt_iff_toNat_lt.1 limited
    rw [h.limit] at room
    unfold Pool.total at room
    omega
  · intro s m limited
    have positive : 0 < s.config.maxConnections.toNat := UInt64.lt_iff_toNat_lt.1 limited
    refine (h.balanced.limited s m).resolve_left fun zero => ?_
    rw [zero] at positive
    exact absurd positive (by decide)
  · intro i m
    obtain ⟨usable, known⟩ := h.idle i m
    exact ⟨usable, List.mem_map.1 known⟩

/-- The counts of a pool that was built are exact, whatever happens to it. -/
theorem accounting_exact {σ : Type} {dial : Nat → HostId → StateT σ Option (Except Fault Address)}
    {s s' : σ} {config : Config} {pool : Pool}
    (built : Pool.build dial config s = some (.ok pool, s')) (inputs : List Input) :
    (run { pool } inputs).Exact config := by
  have start : Kept config.maxTotal.toNat { pool } := Pool.books_build built
  exact (start.run inputs).exact

/-- A cluster of two hosts, the first of which takes one connection; both connections are opened
ahead. -/
def twoHosts : Config where
  hosts := [{ host := "a", port := 1, maxConnections := 1 }, { host := "b", port := 2 }]
  maxTotal := 2
  lazyConnect := false

/-- A network in which every host is reached at one address. -/
def reached (address : Address) : Nat → HostId → StateT Unit Option (Except Fault Address) :=
  fun _ _ => pure (.ok address)

/-- The pool for `twoHosts` in such a network. -/
def twoHostsPool (address : Address) : Pool where
  maxTotal := 2
  opening := {}
  slots :=
    [{ key := 0, config := { host := "a", port := 1, maxConnections := 1 }, opened := 1 },
      { key := 1, config := { host := "b", port := 2 }, opened := 1 }]
  available :=
    [{ slot := 0
       connection :=
        { Connection.ofStream 1 ⟨"a", 1⟩ Frame.defaultMaxLength with address := some address } },
      { slot := 1
        connection :=
          { Connection.ofStream 2 ⟨"b", 2⟩ Frame.defaultMaxLength with address := some address } }]
  nextKey := 2
  nextConnection := 3

/-- The counts stay exact where both connections are lent, the first comes back broken, its host is
removed while another connection to it is being opened, and that one comes back too. -/
theorem accounting_exact_twoHosts :
    let healthy : Connection := .ofStream 0 ⟨"a", 1⟩ Frame.defaultMaxLength
    let ledger := run { pool := twoHostsPool ⟨.v4 .loopback, 1⟩ }
      [.begun, .begun, .returned 1 healthy.markBroken, .begun, .hostRemoved ⟨"a", 1⟩,
        .connected 0 ⟨.v4 .loopback, 1⟩, .returned 0 healthy]
    Pool.build (reached ⟨.v4 .loopback, 1⟩) twoHosts () =
        some (.ok (twoHostsPool ⟨.v4 .loopback, 1⟩), ()) ∧
      ledger.Exact twoHosts ∧
      ledger.pool.stats = { available := 0, inUse := 1, pending := 0, total := 1, hosts := 1 } := by
  have built : Pool.build (reached ⟨.v4 .loopback, 1⟩) twoHosts () =
      some (.ok (twoHostsPool ⟨.v4 .loopback, 1⟩), ()) := by rfl
  exact ⟨built, accounting_exact built _, by decide +kernel⟩

end Ledger

end StoreClient
