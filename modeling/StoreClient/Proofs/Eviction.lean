import Mathlib
import StoreClient.Proofs.Ledger
import StoreClient.Proofs.Rotation

/-!
# Eviction

Where a host is removed its idle connections are dropped at once, and those that are lent or being
opened are dropped when they come back. They are known by the key of their slot, which no later slot
has (`Pool.Gone`); hence it is no matter whether a host of that name has been added again. A pool that
is closed drops its idle connections and never has any again.

Both last whatever happens afterwards, in any order (`eviction_lasts`).
-/

namespace StoreClient

open Pool (Pooled Reservation Books)

namespace Pool

/-! ### Slots that are gone -/

/-- There was a slot of this key, or will never be one. -/
structure Gone (p : Pool) (key : Nat) : Prop where
  known : key < p.nextKey
  absent : key ∉ p.slots.map (·.key)

section Gone

variable {p q : Pool} {key : Nat}

/-- A slot that is gone does not come back in a move. -/
lemma Gone.effect (orderly : p.Orderly) (h : p.Gone key) {m : Move}
    {granted : Option Reservation} (effect : Effect p m granted q) : q.Gone key := by
  cases effect with
  | recounted key' f slots cursor nextKey =>
    refine ⟨nextKey ▸ h.known, ?_⟩
    rw [slots, recount_keys]
    exact h.absent
  | reserved e =>
    obtain ⟨slots, _, nextKey⟩ := reserve?_recounted orderly e
    refine ⟨nextKey ▸ h.known, ?_⟩
    rw [slots, recount_keys]
    exact h.absent
  | hostAdded e =>
    obtain ⟨_, rfl⟩ := addHost_eq_ok e
    refine ⟨Nat.lt_succ_of_lt h.known, fun m => ?_⟩
    rw [List.map_append, List.map_singleton, List.mem_append, List.mem_singleton] at m
    rcases m with old | new
    · exact h.absent old
    · exact Nat.ne_of_lt h.known new
  | hostRemoved e =>
    obtain ⟨s, _, _, _, _, eq⟩ := removeHost_rotation orderly e
    rw [eq]
    exact ⟨h.known, fun m => h.absent ((List.filter_sublist.map _).subset m)⟩

/-- A slot that is gone does not come back, whatever happens. -/
lemma Gone.run (orderly : p.Orderly) (h : p.Gone key) (moves : List Move) :
    (p.run moves).Gone key := by
  induction moves generalizing p with
  | nil => exact h
  | cons m moves ih => exact ih (orderly.move m) (h.effect orderly (effect_move p m))

/-- A connection is not kept for a slot that is not there. -/
lemma keeps_of_absent {pooled : Pooled} (absent : pooled.slot ∉ p.slots.map (·.key)) :
    p.keeps pooled = false := by
  have none_ : p.slot? pooled.slot = none := by
    refine List.find?_eq_none.2 fun s m => ?_
    rw [decide_eq_true_eq]
    intro same
    exact absent (same ▸ List.mem_map_of_mem m)
  simp [keeps, none_]

/-- There is nothing to count for a slot that is not there. -/
lemma forget_of_absent (absent : key ∉ p.slots.map (·.key)) : p.forget key = p :=
  congrArg (fun slots => { p with slots }) (recount_of_not_mem absent (· - 1))

/-- A connection whose slot is gone is dropped when it comes back, and no slot counts it. -/
lemma giveBack_of_absent {pooled : Pooled} (absent : pooled.slot ∉ p.slots.map (·.key)) :
    p.giveBack pooled =
      { p with inUse := p.inUse.filter (fun entry => entry.1 ≠ pooled.connection.id) } := by
  rw [giveBack_of_dropped (keeps_of_absent absent)]
  exact forget_of_absent absent

/-- A reservation for a slot that is not there is only given up. -/
lemma release_of_absent {r : Reservation} (absent : r.slot ∉ p.slots.map (·.key)) :
    p.release r = p.consume :=
  forget_of_absent absent

end Gone

end Pool

namespace Ledger

variable {limit : Nat} {l : Ledger}

/-- What happens to a ledger is moves of its pool. -/
lemma exists_run_step (l : Ledger) (input : Input) :
    ∃ moves, (l.step input).pool = l.pool.run moves := by
  have happens := happens_step l input
  generalize l.step input = l' at happens ⊢
  cases happens with
  | nothing => exact ⟨[], rfl⟩
  | lent taken => exact ⟨[.takeIdle], by simp only [Pool.run, List.foldl, Pool.move, taken]⟩
  | reserved reserved =>
    exact ⟨[.reserve], by simp only [Pool.run, List.foldl, Pool.move, reserved]⟩
  | @connected i address r here =>
    exact ⟨[.number, .consume, .enlist (l.pool.connection r address)], rfl⟩
  | @released i r here => exact ⟨[.release r], rfl⟩
  | @returned i connection guard here => exact ⟨[.giveBack (become guard connection)], rfl⟩
  | @hostAdded config pool added =>
    exact ⟨[.addHost config], by simp only [Pool.run, List.foldl, Pool.move, added]⟩
  | @hostRemoved id pool removed =>
    exact ⟨[.removeHost id], by simp only [Pool.run, List.foldl, Pool.move, removed]⟩
  | closed => exact ⟨[.close], rfl⟩

/-- What happens to a ledger happens to its pool in moves. -/
lemma exists_run_run (l : Ledger) (inputs : List Input) :
    ∃ moves, (l.run inputs).pool = l.pool.run moves := by
  induction inputs generalizing l with
  | nil => exact ⟨[], rfl⟩
  | cons input inputs ih =>
    obtain ⟨first, e⟩ := exists_run_step l input
    obtain ⟨later, e'⟩ := ih (l.step input)
    refine ⟨first ++ later, e'.trans ?_⟩
    rw [e]
    exact (Pool.run_append ..).symm

/-- A pool stays in order, whatever happens to its ledger. -/
lemma orderly_run (h : l.pool.Orderly) (inputs : List Input) : (l.run inputs).pool.Orderly := by
  obtain ⟨moves, e⟩ := exists_run_run l inputs
  rw [e]
  exact h.run moves

/-- A slot that is gone does not come back, whatever happens to the ledger. -/
lemma gone_run {key : Nat} (orderly : l.pool.Orderly) (h : l.pool.Gone key)
    (inputs : List Input) : (l.run inputs).pool.Gone key := by
  obtain ⟨moves, e⟩ := exists_run_run l inputs
  rw [e]
  exact h.run orderly moves

/-! ### Connections by their numbers -/

/-- Wherever the connection of a number is, it counts for the slot of a key. -/
structure Numbered (number key : Nat) (l : Ledger) : Prop where
  known : number < l.pool.nextConnection
  idle : ∀ i ∈ l.pool.available, i.connection.id = number → i.slot = key
  lent : ∀ g ∈ l.guards, g.connection.id = number → g.slot = key

section Numbered

variable {number key : Nat}

/-- A connection counts for the same slot after a step. -/
lemma Numbered.step (h : l.Numbered number key) (input : Input) :
    (l.step input).Numbered number key := by
  have happens := happens_step l input
  generalize l.step input = l' at happens ⊢
  cases happens with
  | nothing => exact h
  | lent taken =>
    obtain ⟨_, rest, available, rfl⟩ := Pool.takeIdle_eq_some_iff.1 taken
    have idle := h.idle
    rw [available] at idle
    obtain ⟨first, others⟩ := List.forall_mem_cons.1 idle
    exact ⟨h.known, others, List.forall_mem_cons.2 ⟨first, h.lent⟩⟩
  | reserved reserved =>
    obtain ⟨_, _, _, _, _, _, _, rfl⟩ := Pool.reserve?_eq_some reserved
    exact ⟨h.known, h.idle, h.lent⟩
  | connected here =>
    refine ⟨Nat.lt_succ_of_lt h.known, h.idle, List.forall_mem_cons.2 ⟨?_, h.lent⟩⟩
    -- The connection has the next number, which is none of those known before.
    intro same
    exact absurd same (Nat.ne_of_gt h.known)
  | released here => exact ⟨h.known, h.idle, h.lent⟩
  | @returned i connection guard here =>
    obtain ⟨available, next⟩ := l.pool.giveBack_available (become guard connection)
    refine ⟨next ▸ h.known, fun idle m same => ?_, fun g m => h.lent g (List.mem_of_mem_eraseIdx m)⟩
    rcases available idle m with old | ⟨rfl, _⟩
    · exact h.idle idle old same
    · exact h.lent guard (List.mem_of_getElem? here) same
  | hostAdded added =>
    obtain ⟨available, next⟩ := Pool.addHost_available added
    exact ⟨next ▸ h.known, fun i m => h.idle i (available ▸ m), h.lent⟩
  | hostRemoved removed =>
    obtain ⟨available, next⟩ := Pool.removeHost_available removed
    exact ⟨next ▸ h.known, fun i m => h.idle i (available i m), h.lent⟩
  | closed => exact ⟨h.known, fun i m => absurd m List.not_mem_nil, h.lent⟩

/-- A connection counts for the same slot, whatever happens. -/
lemma Numbered.run (h : l.Numbered number key) (inputs : List Input) :
    (l.run inputs).Numbered number key := by
  induction inputs generalizing l with
  | nil => exact h
  | cons input inputs ih => exact ih (h.step input)

/-- Where the books are kept, the number of a lent connection is that of no other one. -/
lemma Kept.numbered (h : l.Kept limit) {guard : Pooled} (lent : guard ∈ l.guards) :
    l.Numbered guard.connection.id guard.slot := by
  have distinct := h.distinct
  have known := h.known
  unfold Pool.numbers at distinct known
  rw [List.map_map] at distinct known
  obtain ⟨_, own, apart⟩ := List.nodup_append.1 distinct
  have number : guard.connection.id ∈ l.guards.map (·.connection.id) := List.mem_map_of_mem lent
  refine ⟨known _ (List.mem_append_right _ number), fun i m same => ?_, fun g m same => ?_⟩
  · exact absurd same (apart _ (List.mem_map_of_mem m) _ number)
  · rw [List.inj_on_of_nodup_map own m lent same]

end Numbered

/-! ### After a host was removed -/

/-- A ledger before and after the host of a slot is removed. Idle connections of the slot are dropped,
the others stay in their order, and what is lent or being opened is left alone. -/
structure Removes (key : Nat) (before after : Ledger) : Prop where
  slots : after.pool.slots = before.pool.slots.filter (·.key ≠ key)
  available : after.pool.available = before.pool.available.filter (·.slot ≠ key)
  inUse : after.pool.inUse = before.pool.inUse
  guards : after.guards = before.guards
  reservations : after.reservations = before.reservations

/-- What holds as soon as the slot of a key is gone. -/
structure Lost (key : Nat) (l : Ledger) : Prop where
  absent : ∀ s ∈ l.pool.slots, s.key ≠ key
  idle : ∀ i ∈ l.pool.available, i.slot ≠ key
  /-- What was being opened for the slot is lent, but counts for the slot that is gone. -/
  connected : ∀ i r address, l.reservations[i]? = some r → r.slot = key →
    ∃ guard, (l.step (.connected i address)).guards = guard :: l.guards ∧ guard.slot = key
  /-- A lent connection of the slot is dropped when it comes back. No slot counts it. -/
  returned : ∀ i guard connection, l.guards[i]? = some guard → guard.slot = key →
    (l.step (.returned i connection)).pool = { l.pool with
      inUse := l.pool.inUse.filter (fun entry => entry.1 ≠ guard.connection.id) }
  released : ∀ i r, l.reservations[i]? = some r → r.slot = key →
    (l.step (.released i)).pool = { l.pool with pending := l.pool.pending - 1 }
  /-- And it never is idle again. -/
  never : ∀ guard ∈ l.guards, guard.slot = key → ∀ later,
    ∀ i ∈ (l.run later).pool.available, i.connection.id ≠ guard.connection.id

section Lost

variable {key : Nat}

/-- No idle connection is one of a slot that is gone. -/
lemma Kept.idle_ne (h : l.Kept limit) (gone : l.pool.Gone key) :
    ∀ i ∈ l.pool.available, i.slot ≠ key := by
  intro i m same
  obtain ⟨_, known⟩ := h.idle i m
  exact gone.absent (same ▸ known)

/-- Where the slot of a key is gone, its connections are lost. -/
lemma lost_of_gone (kept : l.Kept limit) (orderly : l.pool.Orderly) (gone : l.pool.Gone key) :
    l.Lost key := by
  refine ⟨fun s m same => gone.absent (same ▸ List.mem_map_of_mem m), kept.idle_ne gone, ?_, ?_, ?_,
    ?_⟩
  · intro i r address here same
    simp only [step, here]
    exact ⟨_, rfl, same⟩
  · rintro i guard connection here rfl
    simp only [step, here]
    have absent : (become guard connection).slot ∉ l.pool.slots.map (·.key) := gone.absent
    exact Pool.giveBack_of_absent absent
  · rintro i r here rfl
    simp only [step, here]
    exact Pool.release_of_absent gone.absent
  · rintro guard lent rfl later i m same
    -- What is idle under the number counts for the slot, but nothing idle does.
    have numbered := (kept.numbered lent).run later
    exact (kept.run later).idle_ne (gone_run orderly gone later) i m (numbered.idle i m same)

/-- The host of a slot can be removed, and then the slot is gone. -/
lemma removes_hostRemoved (orderly : l.pool.Orderly) {s : Pool.Slot} (there : s ∈ l.pool.slots) :
    Removes s.key l (l.step (.hostRemoved s.config.id)) ∧
      (l.step (.hostRemoved s.config.id)).pool.Gone s.key := by
  obtain ⟨q, removed, _, eq⟩ := Pool.exists_removeHost orderly there
  simp only [step, removed]
  rw [eq]
  refine ⟨⟨rfl, rfl, rfl, rfl, rfl⟩, orderly.known _ (List.mem_map_of_mem there), ?_⟩
  simp

end Lost

/-! ### After the pool was closed -/

/-- What holds as soon as the pool is closed: nothing is idle, no checkout begins, and what is left is
what is lent or being opened, which only gets less. -/
structure Shut (l : Ledger) : Prop where
  available : l.pool.available = []
  refused : l.pool.checkOut = (.refused .poolExhausted, l.pool)
  total : l.pool.total = l.guards.length + l.reservations.length
  shrinks : ∀ input, (l.step input).pool.total ≤ l.pool.total

/-- The pool is closed and keeps no connections. -/
structure Emptied (l : Ledger) : Prop where
  closed : l.pool.closed = true
  available : l.pool.available = []

section Emptied

/-- A closed pool refuses every checkout. -/
lemma Emptied.refused (h : l.Emptied) :
    l.pool.checkOut = (.refused .poolExhausted, l.pool) := by
  simp [Pool.checkOut, Pool.takeIdle, h.closed]

/-- A closed pool lends no connection. -/
lemma Emptied.not_lent (h : l.Emptied) {pooled : Pooled} {pool : Pool} :
    l.pool.takeIdle ≠ .ok (some (pooled, pool)) := by
  simp [Pool.takeIdle, h.closed]

/-- A closed pool reserves no room. -/
lemma Emptied.not_reserved (h : l.Emptied) {r : Reservation} {pool : Pool} :
    l.pool.reserve? ≠ some (r, pool) := by
  simp [Pool.reserve?, h.closed]

/-- A closed pool stays closed and empty in a step. -/
lemma Emptied.step (h : l.Emptied) (input : Input) : (l.step input).Emptied := by
  have happens := happens_step l input
  generalize l.step input = l' at happens ⊢
  cases happens with
  | nothing => exact h
  | lent taken => exact absurd taken h.not_lent
  | reserved reserved => exact absurd reserved h.not_reserved
  | connected here => exact ⟨h.closed, h.available⟩
  | released here => exact ⟨h.closed, h.available⟩
  | @returned i connection guard here =>
    have dropped : l.pool.keeps (become guard connection) = false := by
      simp [Pool.keeps, h.closed]
    rw [Pool.giveBack_of_dropped dropped]
    exact ⟨h.closed, h.available⟩
  | hostAdded added =>
    obtain ⟨_, rfl⟩ := Pool.addHost_eq_ok added
    exact ⟨h.closed, h.available⟩
  | hostRemoved removed =>
    obtain ⟨_, _, _, _, rfl⟩ := Pool.removeHost_eq_ok removed
    exact ⟨h.closed, by simp [h.available]⟩
  | closed => exact ⟨rfl, rfl⟩

/-- A closed pool stays closed and empty, whatever happens. -/
lemma Emptied.run (h : l.Emptied) (inputs : List Input) : (l.run inputs).Emptied := by
  induction inputs generalizing l with
  | nil => exact h
  | cons input inputs ih => exact ih (h.step input)

/-- A closed pool counts only what is lent or being opened. -/
lemma Kept.total_eq (kept : l.Kept limit) (h : l.Emptied) :
    l.pool.total = l.guards.length + l.reservations.length := by
  have lent := kept.inUse.length_eq
  have pending := kept.pending
  rw [List.length_map] at lent pending
  rw [Pool.total, h.available, lent, pending, List.length_nil, Nat.zero_add]

/-- Once the pool is closed, nothing more is lent or opened. -/
lemma Emptied.held_le (h : l.Emptied) (input : Input) :
    (l.step input).guards.length + (l.step input).reservations.length ≤
      l.guards.length + l.reservations.length := by
  have happens := happens_step l input
  generalize l.step input = l' at happens ⊢
  cases happens with
  | nothing => exact le_refl _
  | lent taken => exact absurd taken h.not_lent
  | reserved reserved => exact absurd reserved h.not_reserved
  | connected here =>
    -- What was being opened is lent instead.
    obtain ⟨inside, _⟩ := List.getElem?_eq_some_iff.1 here
    simp only [List.length_cons, List.length_eraseIdx_of_lt inside]
    omega
  | released here => exact Nat.add_le_add_left (List.length_eraseIdx_le _ _) _
  | returned here => exact Nat.add_le_add_right (List.length_eraseIdx_le _ _) _
  | hostAdded added => exact le_refl _
  | hostRemoved removed => exact le_refl _
  | closed => exact le_refl _

/-- A closed pool is shut. -/
lemma shut_of_emptied (kept : l.Kept limit) (h : l.Emptied) : l.Shut := by
  refine ⟨h.available, h.refused, kept.total_eq h, fun input => ?_⟩
  rw [kept.total_eq h, (kept.step input).total_eq (h.step input)]
  exact h.held_le input

end Emptied

/-- What a pool that was built loses it never gets back, whatever has happened before and happens
afterwards: the connections of a host that is removed, and all connections once it is closed. -/
theorem eviction_lasts {σ : Type} {dial : Nat → HostId → StateT σ Option (Except Fault Address)}
    {s s' : σ} {config : Config} {pool : Pool}
    (built : Pool.build dial config s = some (.ok pool, s')) (before : List Input) :
    let l := run { pool } before
    (∀ slot ∈ l.pool.slots,
      let removed := l.step (.hostRemoved slot.config.id)
      Removes slot.key l removed ∧ ∀ after, (removed.run after).Lost slot.key) ∧
    ∀ after, ((l.step .closed).run after).Shut := by
  intro l
  have start : Kept config.maxTotal.toNat { pool } := Pool.books_build built
  have kept : l.Kept config.maxTotal.toNat := start.run before
  have orderly : l.pool.Orderly := orderly_run (l := { pool }) (Pool.orderly_build built) before
  refine ⟨fun slot there => ?_, fun after => ?_⟩
  · intro removed
    obtain ⟨removes, gone⟩ := removes_hostRemoved orderly there
    have orderly' : removed.pool.Orderly := orderly_run orderly [.hostRemoved slot.config.id]
    refine ⟨removes, fun after => ?_⟩
    exact lost_of_gone ((kept.step _).run after) (orderly_run orderly' after)
      (gone_run orderly' gone after)
  · have emptied : (l.step .closed).Emptied := ⟨rfl, rfl⟩
    exact shut_of_emptied ((kept.step .closed).run after) (emptied.run after)

/-- A connection is lent, its host is removed and added again, and the new slot does not count it when
it comes back. If the pool is closed instead, it is empty once the connection has come back. -/
theorem eviction_lasts_twoHosts :
    let healthy : Connection := .ofStream 0 ⟨"a", 1⟩ Frame.defaultMaxLength
    let l := run { pool := twoHostsPool ⟨.v4 .loopback, 1⟩ } [.begun]
    let removed := l.step (.hostRemoved ⟨"a", 1⟩)
    let again := removed.run [.hostAdded { host := "a", port := 1 }]
    let closed := (l.step .closed).run [.begun, .returned 0 healthy]
    Pool.build (reached ⟨.v4 .loopback, 1⟩) twoHosts () =
        some (.ok (twoHostsPool ⟨.v4 .loopback, 1⟩), ()) ∧
      Removes 0 l removed ∧ again.Lost 0 ∧
      (again.step (.returned 0 healthy)).pool.slots.map (fun s => (s.key, s.opened)) =
        [(1, 1), (2, 0)] ∧
      closed.Shut ∧ closed.pool.total = 0 := by
  intro healthy l removed again closed
  have built : Pool.build (reached ⟨.v4 .loopback, 1⟩) twoHosts () =
      some (.ok (twoHostsPool ⟨.v4 .loopback, 1⟩), ()) := by rfl
  obtain ⟨lost, shut⟩ := eviction_lasts built [.begun]
  have there : { key := 0, config := { host := "a", port := 1, maxConnections := 1 }, opened := 1 } ∈
      l.pool.slots := by decide +kernel
  obtain ⟨removes, later⟩ := lost _ there
  exact ⟨built, removes, later _, by decide +kernel, shut _, by decide +kernel⟩

end Ledger

end StoreClient
