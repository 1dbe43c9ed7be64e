import Mathlib
import StoreClient.Proofs.Ledger

/-!
# Contention for a pool

Callers that run at the same time come between each other's steps. A checkout that has to connect
takes several: it finds nothing idle, reserves room, gives the reservation up for the open
connection and enters the connection in the books, and the pool may be anyone's between any two of
them (`Contention.Input`).

A connection that is open but not yet in the books is counted nowhere. Room that is reserved
meanwhile may be room that there is not, and so the pool may come to hold more connections than
`maxTotal` (`cap_exceeded`), by one for every such caller and by any number (`exists_total_eq`).
There is no more to it: the excess is at most the greatest number of callers that were between these
two steps when room was reserved (`total_le_add_overlap`).

What carries the proof is the pool in which those connections are in the books (`settle`). Every
step keeps its books, where the callers that were too many are granted room of their own.
-/

namespace StoreClient

open Pool (Pooled Reservation Slot Books)

/-- A pool and its callers, each between two steps. -/
structure Contention where
  pool : Pool
  /-- How many callers have found nothing idle and are to ask for room. -/
  asking : Nat := 0
  /-- The reservations of the callers that connect. -/
  reservations : List Reservation := []
  /-- The open connections whose reservations are given up and that are not in the books yet. -/
  entering : List Pooled := []
  /-- The lent connections. -/
  guards : List Pooled := []

namespace Contention

/-- A step of a caller, or something else that happens to the pool. Callers that connect, enter a
connection or hold one are known by their positions. -/
inductive Input where
  /-- A caller looks for an idle connection. -/
  | called
  /-- One that has found none asks for room. -/
  | asked
  /-- The connection of a reservation is open, and the reservation is given up for it. -/
  | connected (reservation : Nat) (address : Address)
  /-- The connection of a reservation could not be opened, or nobody waits for it any more. -/
  | released (reservation : Nat)
  /-- An open connection is entered in the books. -/
  | entered (connection : Nat)
  /-- A guard is given back. The connection may have become any other with its number. -/
  | returned (guard : Nat) (connection : Connection)
  | hostAdded (config : HostConfig)
  | hostRemoved (id : HostId)
  | closed

/-- What happens next. A caller that is refused is gone, and one that is not there does nothing. -/
def step (l : Contention) : Input → Contention
  | .called =>
    match l.pool.takeIdle with
    | .error _ => l
    | .ok none => { l with asking := l.asking + 1 }
    | .ok (some (pooled, pool)) => { l with pool, guards := pooled :: l.guards }
  | .asked =>
    if l.asking = 0 then l
    else
      match l.pool.reserve? with
      | none => { l with asking := l.asking - 1 }
      | some (reservation, pool) =>
        { l with
          pool
          asking := l.asking - 1
          reservations := reservation :: l.reservations }
  | .connected i address =>
    match l.reservations[i]? with
    | some reservation =>
      { l with
        pool := l.pool.number.consume
        reservations := l.reservations.eraseIdx i
        entering := l.pool.connection reservation address :: l.entering }
    | none => l
  | .released i =>
    match l.reservations[i]? with
    | some reservation =>
      { l with pool := l.pool.release reservation, reservations := l.reservations.eraseIdx i }
    | none => l
  | .entered i =>
    match l.entering[i]? with
    | some pooled =>
      { l with
        pool := l.pool.enlist pooled
        entering := l.entering.eraseIdx i
        guards := pooled :: l.guards }
    | none => l
  | .returned i connection =>
    match l.guards[i]? with
    | some guard =>
      { l with
        pool := l.pool.giveBack (Ledger.become guard connection)
        guards := l.guards.eraseIdx i }
    | none => l
  | .hostAdded config =>
    match l.pool.addHost config with
    | .ok pool => { l with pool }
    | .error _ => l
  | .hostRemoved id =>
    match l.pool.removeHost id with
    | .ok pool => { l with pool }
    | .error _ => l
  | .closed => { l with pool := l.pool.close }

/-- What happens in turn. -/
def run (l : Contention) (inputs : List Input) : Contention := inputs.foldl step l

/-- What happens in turn happens in two parts. -/
lemma run_append (l : Contention) (first later : List Input) :
    l.run (first ++ later) = (l.run first).run later := List.foldl_append

/-- How many callers have a connection that is in no count while a step reserves room. -/
def crowd (l : Contention) (input : Input) : Nat :=
  if l.pool.pending < (l.step input).pool.pending then l.entering.length else 0

/-- The greatest such number of a run. -/
def overlap : Contention → List Input → Nat
  | _, [] => 0
  | l, input :: inputs => max (l.crowd input) ((l.step input).overlap inputs)

/-! ### The settled pool -/

/-- The number of a connection and the key of its slot. -/
def entry (p : Pooled) : Nat × Nat := (p.connection.id, p.slot)

/-- The pool in which the connections that are entering are in the books, with room for `extra`
more. -/
def settle (entering : List Pooled) (extra : Nat) (p : Pool) : Pool :=
  { p with
    maxTotal := p.maxTotal + extra
    inUse := entering.map entry ++ p.inUse }

section settle

variable {p p' : Pool} {entering : List Pooled} {extra : Nat}

/-- Where room is reserved, there is room in the settled pool too, if there is extra room for those
that are entering. -/
lemma settle_reserve? {r : Reservation} (limited : 0 < p.maxTotal) (few : entering.length ≤ extra)
    (reserved : p.reserve? = some (r, p')) :
    (settle entering extra p).reserve? = some (r, settle entering extra p') := by
  obtain ⟨open_, room, _⟩ := Pool.reserve?_eq_some reserved
  have room' : (settle entering extra p).hasCapacity = true := by
    rw [Pool.hasCapacity_iff] at room ⊢
    refine .inr ?_
    simp only [settle, Pool.total, List.length_append, List.length_map] at room ⊢
    omega
  have open' : (settle entering extra p).closed = false := open_
  unfold Pool.reserve? at reserved ⊢
  simp only [open_, room, Bool.false_eq_true, Bool.not_true, if_false] at reserved
  simp only [open', room', Bool.false_eq_true, Bool.not_true, if_false]
  have turns : (settle entering extra p).turns = p.turns := rfl
  rw [turns]
  cases found : p.turns.find? (·.2.hasCapacity) with
  | none =>
    rw [found] at reserved
    cases reserved
  | some place =>
    rw [found] at reserved
    cases reserved
    rfl

/-- What comes back is none of the connections that are entering. -/
lemma settle_giveBack {pooled : Pooled}
    (other : ∀ e ∈ entering, e.connection.id ≠ pooled.connection.id) :
    (settle entering extra p).giveBack pooled = settle entering extra (p.giveBack pooled) := by
  have kept : (entering.map entry).filter (fun e => e.1 ≠ pooled.connection.id) =
      entering.map entry := by
    refine List.filter_eq_self.2 fun e m => ?_
    obtain ⟨p, m', rfl⟩ := List.mem_map.1 m
    exact decide_eq_true (other p m')
  unfold Pool.giveBack
  dsimp only
  rw [apply_ite (settle entering extra)]
  simp only [settle, List.filter_append, kept]
  rfl

/-- A host is added to the settled pool as to the other. -/
lemma settle_addHost {config : HostConfig} (added : p.addHost config = .ok p') :
    (settle entering extra p).addHost config = .ok (settle entering extra p') := by
  unfold Pool.addHost at added ⊢
  split at added
  · cases added
  · rename_i new
    cases added
    exact if_neg new

/-- A host is removed from the settled pool as from the other. -/
lemma settle_removeHost {id : HostId} (removed : p.removeHost id = .ok p') :
    (settle entering extra p).removeHost id = .ok (settle entering extra p') := by
  unfold Pool.removeHost at removed ⊢
  have slots : (settle entering extra p).slots = p.slots := rfl
  rw [slots]
  cases found : p.slots.findIdx? (·.config.id = id) with
  | none =>
    rw [found] at removed
    cases removed
  | some position =>
    rw [found] at removed
    cases removed
    rfl

end settle

/-! ### What steps keep -/

/-- The books of the settled pool are kept. -/
def Kept (limit extra : Nat) (l : Contention) : Prop :=
  Books (limit + extra) (settle l.entering extra l.pool)
    (l.entering.map entry ++ l.guards.map entry) (l.reservations.map (·.slot))

variable {limit extra : Nat} {l : Contention}

/-- What is at a position, before the others. -/
lemma map_perm_cons {α β : Type} {xs : List α} {i : Nat} {x : α} (here : xs[i]? = some x)
    (f : α → β) : (xs.map f).Perm (f x :: (xs.eraseIdx i).map f) := by
  obtain ⟨inside, rfl⟩ := List.getElem?_eq_some_iff.1 here
  exact ((List.getElem_cons_eraseIdx_perm inside).map f).symm

/-- The books with a reservation before the others. -/
lemma Kept.reservation (h : l.Kept limit extra) {i : Nat} {r : Reservation}
    (here : l.reservations[i]? = some r) :
    Books (limit + extra) (settle l.entering extra l.pool)
      (l.entering.map entry ++ l.guards.map entry)
      (r.slot :: (l.reservations.eraseIdx i).map (·.slot)) :=
  Books.perm h (.refl _) (map_perm_cons here _)

/-- An idle connection is lent from the settled pool too. -/
lemma Kept.called (h : l.Kept limit extra) : (l.step .called).Kept limit extra := by
  simp only [Contention.step]
  cases taken : l.pool.takeIdle with
  | error fault => exact h
  | ok found =>
    cases found with
    | none => exact h
    | some lent =>
      obtain ⟨pooled, pool⟩ := lent
      obtain ⟨open_, rest, available, rfl⟩ := Pool.takeIdle_eq_some_iff.1 taken
      have lent : (settle l.entering extra l.pool).takeIdle = .ok (some (pooled, _)) :=
        Pool.takeIdle_eq_some_iff.2 ⟨open_, rest, available, rfl⟩
      have books := Books.takeIdle h lent
      exact (books.perm List.perm_middle.symm (.refl _)).reorder List.perm_middle.symm

/-- Room is reserved in the settled pool too, if no more callers are between than were granted room.
-/
lemma Kept.asked (h : l.Kept limit extra) (limited : 0 < limit) (few : l.crowd .asked ≤ extra) :
    (l.step .asked).Kept limit extra := by
  by_cases nobody : l.asking = 0
  · simpa only [Contention.step, nobody, if_true] using h
  cases reserved : l.pool.reserve? with
  | none =>
    simp only [Contention.step, nobody, if_false, reserved]
    exact h
  | some found =>
    obtain ⟨r, pool⟩ := found
    have limited' : 0 < l.pool.maxTotal := by
      have same : l.pool.maxTotal + extra = limit + extra := Books.limit h
      omega
    have few' : l.entering.length ≤ extra := by
      obtain ⟨_, _, _, _, _, _, _, grown⟩ := Pool.reserve?_eq_some reserved
      refine Nat.le_trans (Nat.le_of_eq ?_) few
      simp [crowd, Contention.step, nobody, reserved, grown]
    simp only [Contention.step, nobody, if_false, reserved]
    exact Books.reserve h (settle_reserve? limited' few' reserved)

/-- A connection that is entered was in the books of the settled pool already. -/
lemma Kept.entered (h : l.Kept limit extra) (i : Nat) :
    (l.step (.entered i)).Kept limit extra := by
  cases here : l.entering[i]? with
  | none => simpa only [Contention.step, here] using h
  | some pooled =>
    simp only [Contention.step, here]
    have perm (others : List (Nat × Nat)) : (l.entering.map entry ++ others).Perm
        ((l.entering.eraseIdx i).map entry ++ entry pooled :: others) :=
      ((map_perm_cons here entry).append_right others).trans List.perm_middle.symm
    exact (Books.perm h (perm _) (.refl _)).reorder (perm l.pool.inUse)

/-- A guard that is given back takes none of the connections that are entering with it. -/
lemma Kept.returned (h : l.Kept limit extra) (i : Nat) (connection : Connection) :
    (l.step (.returned i connection)).Kept limit extra := by
  cases here : l.guards[i]? with
  | none => simpa only [Contention.step, here] using h
  | some guard =>
    simp only [Contention.step, here]
    have first : (l.entering.map entry ++ l.guards.map entry).Perm
        (entry (Ledger.become guard connection) ::
          (l.entering.map entry ++ (l.guards.eraseIdx i).map entry)) :=
      ((map_perm_cons here entry).append_left _).trans List.perm_middle
    have books := Books.perm h first (.refl _)
    have other : ∀ p ∈ l.entering,
        p.connection.id ≠ (Ledger.become guard connection).connection.id := by
      intro p m same
      have distinct := (List.nodup_append.1 books.distinct).2.1
      refine (List.nodup_cons.1 distinct).1 (List.mem_map.2 ⟨entry p, ?_, same⟩)
      exact List.mem_append_left _ (List.mem_map_of_mem m)
    have back := books.giveBack
    rwa [settle_giveBack other] at back

/-- Every step keeps the books of the settled pool, if room is reserved only while no more callers
are between than were granted room. -/
lemma Kept.step (h : l.Kept limit extra) (limited : 0 < limit) {input : Input}
    (few : l.crowd input ≤ extra) : (l.step input).Kept limit extra := by
  cases input with
  | called => exact h.called
  | asked => exact h.asked limited few
  | connected i address =>
    cases here : l.reservations[i]? with
    | none => simpa only [Contention.step, here] using h
    | some r =>
      simp only [Contention.step, here]
      exact (h.reservation here).connected address
  | released i =>
    cases here : l.reservations[i]? with
    | none => simpa only [Contention.step, here] using h
    | some r =>
      simp only [Contention.step, here]
      exact (h.reservation here).release
  | entered i => exact h.entered i
  | returned i connection => exact h.returned i connection
  | hostAdded config =>
    cases added : l.pool.addHost config with
    | error fault => simpa only [Contention.step, added] using h
    | ok pool =>
      simp only [Contention.step, added]
      exact Books.addHost h (settle_addHost added)
  | hostRemoved id =>
    cases removed : l.pool.removeHost id with
    | error fault => simpa only [Contention.step, removed] using h
    | ok pool =>
      simp only [Contention.step, removed]
      exact Books.removeHost h (settle_removeHost removed)
  | closed => exact Books.close h

/-- So do all steps in turn. -/
lemma Kept.run (h : l.Kept limit extra) (limited : 0 < limit) {inputs : List Input}
    (few : l.overlap inputs ≤ extra) : (l.run inputs).Kept limit extra := by
  induction inputs generalizing l with
  | nil => exact h
  | cons input inputs ih =>
    simp only [overlap, max_le_iff] at few
    exact ih (h.step limited few.1) few.2

/-- A pool that was built is settled. -/
lemma Kept.start {pool : Pool} (h : Books limit pool [] []) (limited : 0 < limit) (extra : Nat) :
    Kept limit extra { pool } := by
  refine ⟨congrArg (· + extra) h.limit, h.pending, h.inUse, h.distinct, h.known, h.balanced, ?_,
    h.idle⟩
  have same := h.limit
  have room := h.room
  simp only [settle, Pool.total, List.map_nil, List.nil_append] at room ⊢
  omega

/-- However callers come between each other's steps, a pool that was built holds no more connections
than it may, but for one for each caller whose connection was in no count when room was reserved.
This counts the connections that are entering, too. -/
theorem total_le_add_overlap {σ : Type}
    {dial : Nat → HostId → StateT σ Option (Except Fault Address)} {s s' : σ} {config : Config}
    {pool : Pool} (built : Pool.build dial config s = some (.ok pool, s'))
    (limited : 0 < config.maxTotal) (inputs : List Input) :
    let l := run { pool } inputs
    l.pool.available.length + l.pool.inUse.length + l.pool.pending + l.entering.length ≤
      config.maxTotal.toNat + overlap { pool } inputs := by
  intro l
  have positive : 0 < config.maxTotal.toNat := UInt64.lt_iff_toNat_lt.1 limited
  have start := Kept.start (Pool.books_build built) positive (overlap { pool } inputs)
  have kept : l.Kept config.maxTotal.toNat (overlap { pool } inputs) :=
    start.run positive (le_refl _)
  have limit := Books.limit kept
  have room := Books.room kept
  rw [limit] at room
  simp only [settle, Pool.total, List.length_append, List.length_map] at room
  omega

/-- One host and one connection. -/
def solo : Config where
  hosts := [{ host := "a", port := 1 }]
  maxTotal := 1

/-- The pool for `solo`. -/
def soloPool : Pool where
  maxTotal := 1
  opening := { timeout := solo.connectTimeout }
  slots := [{ key := 0, config := { host := "a", port := 1 } }]
  nextKey := 1

/-- The pool for `solo` keeps to its limit where the second caller asks for room once the connection
of the first is in the books. -/
theorem total_le_add_overlap_inTurn :
    let address : Address := ⟨.v4 .loopback, 1⟩
    let inputs : List Input := [.called, .called, .asked, .connected 0 address, .entered 0, .asked]
    Pool.build (Ledger.reached address) solo () = some (.ok soloPool, ()) ∧
      overlap { pool := soloPool } inputs = 0 ∧
      (run { pool := soloPool } inputs).pool.total ≤ 1 := by
  intro address inputs
  have built : Pool.build (Ledger.reached address) solo () = some (.ok soloPool, ()) := by rfl
  have bound := total_le_add_overlap built (by decide) inputs
  have apart : overlap { pool := soloPool } inputs = 0 := by decide +kernel
  rw [apart] at bound
  exact ⟨built, apart, Nat.le_trans (Nat.le_add_right _ _) bound⟩

/-- Where the second caller asks for room between the last two steps of the first, the pool for
`solo` holds a connection and connects to another. -/
theorem cap_exceeded :
    let address : Address := ⟨.v4 .loopback, 1⟩
    let l := run { pool := soloPool }
      [.called, .called, .asked, .connected 0 address, .asked, .entered 0]
    Pool.build (Ledger.reached address) solo () = some (.ok soloPool, ()) ∧
      0 < solo.maxTotal ∧
      ¬ l.pool.available.length + l.pool.inUse.length + l.pool.pending ≤ solo.maxTotal.toNat := by
  decide +kernel

/-! ### How far the limit can be exceeded -/

/-- An open pool that has nothing idle and room for one more, and a host that takes any number. -/
structure Roomy (p : Pool) : Prop where
  open_ : p.closed = false
  empty : p.available = []
  room : p.hasCapacity = true
  unlimited : ∃ s ∈ p.slots, s.config.maxConnections = 0

/-- A slot for which one more is counted is still for the same host. -/
lemma unlimited_set {slots : List Slot} {position : Nat} {slot : Slot}
    (here : slots[position]? = some slot) (h : ∃ s ∈ slots, s.config.maxConnections = 0) :
    ∃ s ∈ slots.set position { slot with opened := slot.opened + 1 },
      s.config.maxConnections = 0 := by
  obtain ⟨s, m, unlimited⟩ := h
  obtain ⟨other, there⟩ := List.mem_iff_getElem?.1 m
  by_cases same : position = other
  · subst same
    rw [here] at there
    cases there
    obtain ⟨inside, _⟩ := List.getElem?_eq_some_iff.1 here
    exact ⟨_, List.mem_set inside _, unlimited⟩
  · refine ⟨s, List.mem_of_getElem? (i := other) ?_, unlimited⟩
    rw [List.getElem?_set_ne same]
    exact there

/-- One caller more can reserve room and give its reservation up, and there is as much room as
before. -/
lemma exists_round (h : Roomy l.pool) {n : Nat} (asks : l.asking = n + 1)
    (unreserved : l.reservations = []) :
    ∃ inputs pooled pool,
      l.run inputs = { l with pool, asking := n, entering := pooled :: l.entering } ∧
      Roomy pool ∧ pool.total = l.pool.total ∧ pool.maxTotal = l.pool.maxTotal := by
  obtain ⟨s, m, unlimited⟩ := h.unlimited
  obtain ⟨r, pool, reserved⟩ := Pool.exists_reserve? h.open_ h.room
    ⟨s, m, by simp [Slot.hasCapacity, unlimited]⟩
  have asked : l.step .asked = { l with pool, asking := n, reservations := [r] } := by
    simp [step, asks, reserved, unreserved]
  have address : Address := ⟨.v4 .loopback, 1⟩
  refine ⟨[.asked, .connected 0 address], pool.connection r address, pool.number.consume, ?_, ?_⟩
  · show (l.step .asked).step (.connected 0 address) = _
    rw [asked]
    simp only [step, unreserved, List.getElem?_cons_zero, List.eraseIdx_cons_zero]
  · obtain ⟨_, _, position, slot, here, _, rfl, rfl⟩ := Pool.reserve?_eq_some reserved
    exact ⟨⟨h.open_, h.empty, h.room, unlimited_set here h.unlimited⟩, rfl, rfl⟩

/-- So can all callers that ask for room. -/
lemma exists_rounds (h : Roomy l.pool) {n : Nat} (asks : l.asking = n)
    (unreserved : l.reservations = []) :
    ∃ inputs pool entering,
      l.run inputs = { l with pool, asking := 0, entering } ∧
      entering.length = l.entering.length + n ∧
      pool.total = l.pool.total ∧ pool.maxTotal = l.pool.maxTotal := by
  induction n generalizing l with
  | zero => exact ⟨[], l.pool, l.entering, by rw [← asks]; rfl, rfl, rfl, rfl⟩
  | succ n ih =>
    obtain ⟨first, pooled, pool, same, roomy, total, limit⟩ := exists_round h asks unreserved
    obtain ⟨inputs, pool', entering, same', count, total', limit'⟩ :=
      ih (l := { l with pool, asking := n, entering := pooled :: l.entering }) roomy rfl unreserved
    refine ⟨first ++ inputs, pool', entering, ?_, ?_, total'.trans total, limit'.trans limit⟩
    · rw [run_append, same]
      exact same'
    · rw [count, List.length_cons]
      omega

/-- Every connection that is entering is one more in the books. -/
lemma exists_entered (l : Contention) :
    ∃ inputs, (l.run inputs).pool.total = l.pool.total + l.entering.length ∧
      (l.run inputs).pool.maxTotal = l.pool.maxTotal := by
  induction entering : l.entering generalizing l with
  | nil => exact ⟨[], rfl, rfl⟩
  | cons pooled rest ih =>
    have entered : l.step (.entered 0) =
        { l with
          pool := l.pool.enlist pooled
          entering := rest
          guards := pooled :: l.guards } := by
      simp only [step, entering, List.getElem?_cons_zero, List.eraseIdx_cons_zero]
    obtain ⟨inputs, total, limit⟩ := ih (l.step (.entered 0)) (by rw [entered])
    refine ⟨.entered 0 :: inputs, total.trans ?_, limit.trans ?_⟩
    · rw [entered]
      simp only [Pool.total, Pool.enlist, List.length_cons]
      omega
    · rw [entered]
      rfl

/-- Callers that find nothing idle are to ask for room. -/
lemma run_called (open_ : l.pool.closed = false) (empty : l.pool.available = []) (n : Nat) :
    l.run (.replicate n .called) = { l with asking := l.asking + n } := by
  induction n generalizing l with
  | zero => rfl
  | succ n ih =>
    have called : l.step .called = { l with asking := l.asking + 1 } := by
      simp [step, Pool.takeIdle, open_, empty]
    have later : (l.step .called).run (.replicate n .called) =
        { l.step .called with asking := (l.step .called).asking + n } := by
      refine ih ?_ ?_
      · rw [called]
        exact open_
      · rw [called]
        exact empty
    refine later.trans ?_
    rw [called, Nat.add_assoc, Nat.add_comm 1]

/-- If there is room for one connection more, there may come to be any number more, whatever the
limit: as many as there are callers at once, each of which reserves room while those before it are
between the last two steps. -/
theorem exists_total_eq {pool : Pool} (roomy : Roomy pool) (n : Nat) :
    ∃ inputs, (run { pool } inputs).pool.total = pool.total + n ∧
      (run { pool } inputs).pool.maxTotal = pool.maxTotal := by
  have called := run_called (l := { pool }) roomy.open_ roomy.empty n
  obtain ⟨rounds, pool', entering, same, count, total, limit⟩ :=
    exists_rounds (l := { pool, asking := 0 + n }) roomy (Nat.zero_add n) rfl
  obtain ⟨inputs, total', limit'⟩ := exists_entered { pool := pool', entering }
  refine ⟨.replicate n .called ++ rounds ++ inputs, ?_⟩
  have all : run { pool } (.replicate n .called ++ rounds ++ inputs) =
      run { pool := pool', entering } inputs := by
    rw [run_append, run_append, called]
    exact congrArg (run · inputs) same
  rw [all, total', limit', count, total, limit]
  exact ⟨by simp, rfl⟩

end Contention

end StoreClient
