import Mathlib
import StoreClient.Proofs.Rotation
import StoreClient.Proofs.Turns
import StoreClient.Proofs.Validation

/-!
# Connections that are opened ahead

A pool that opens its connections ahead opens as many as it may hold and hosts take (`capacity`),
one host after the other, so that they are spread evenly: hosts that take more are at most one
apart, and those that are ahead come first (`build_eager`). The loop has no bound of its own; it
ends where nothing can be reserved, and it gets there before its count runs out. A connection that
cannot be opened ends it at once.

What carries this is the level to which the slots are filled (`Levelled`): each slot has as many
connections as the level, as far as its host takes them, and those before the cursor one more.
-/

namespace StoreClient

namespace Pool

/-! ### The level of the slots -/

/-- How many connections a host has of `level` that it is offered. -/
def share (h : HostConfig) (level : Nat) : Nat :=
  if h.maxConnections = 0 then level else min level h.maxConnections.toNat

/-- The slots are filled to a level, and those before the cursor to the next one. -/
def Levelled (slots : List Slot) (cursor level : Nat) : Prop :=
  ∀ i s, slots[i]? = some s → s.opened = share s.config (if i < cursor then level + 1 else level)

section Levelled

variable {slots : List Slot} {cursor level position : Nat} {slot : Slot}

/-- A slot has room if its host has no limit or is below it. -/
lemma Slot.hasCapacity_iff {s : Slot} :
    s.hasCapacity = true ↔
      s.config.maxConnections = 0 ∨ s.opened < s.config.maxConnections.toNat := by
  simp [Slot.hasCapacity]

/-- A slot without room is filled to every higher level as well. -/
lemma share_of_full {s : Slot} (full : s.hasCapacity = false)
    (here : s.opened = share s.config level) :
    s.opened = share s.config (level + 1) := by
  have full : ¬ s.hasCapacity = true := by simp [full]
  rw [Slot.hasCapacity_iff, not_or] at full
  unfold share at here ⊢
  rw [if_neg full.1] at here ⊢
  omega

/-- A slot with room that has its share of a level lacks one of the next. -/
lemma share_of_room {s : Slot} (room : s.hasCapacity = true)
    (here : s.opened = share s.config level) :
    s.opened + 1 = share s.config (level + 1) := by
  rw [Slot.hasCapacity_iff] at room
  unfold share at here ⊢
  split
  · rename_i unlimited
    rw [if_pos unlimited] at here
    rw [here]
  · rename_i limited
    rw [if_neg limited] at here
    have some_ := room.resolve_left limited
    omega

/-- The first slot with room from the cursor on takes one more, and the cursor goes behind it. -/
lemma Levelled.advance (h : Levelled slots cursor level) (behind : cursor ≤ position)
    (here : slots[position]? = some slot) (room : slot.hasCapacity = true)
    (passed : ∀ i s, cursor ≤ i → i < position → slots[i]? = some s → s.hasCapacity = false) :
    Levelled (slots.set position { slot with opened := slot.opened + 1 }) (position + 1) level := by
  intro i s found
  rw [List.getElem?_set] at found
  split at found
  · -- The slot itself was filled to the level, and now is to the next one.
    rename_i same
    subst same
    split at found
    · cases found
      have before := h position slot here
      rw [if_neg (Nat.not_lt.2 behind)] at before
      rw [if_pos (Nat.lt_succ_self _)]
      exact share_of_room room before
    · cases found
  · rename_i other
    have before := h i s found
    split at before
    · rename_i front
      rw [if_pos (by omega)]
      exact before
    · rename_i back
      split
      · exact share_of_full (passed i s (by omega) (by omega) found) before
      · exact before

/-- Where no slot from the cursor on has room, all of them are filled to the next level. -/
lemma Levelled.around (h : Levelled slots cursor level)
    (full : ∀ i s, cursor ≤ i → slots[i]? = some s → s.hasCapacity = false) :
    Levelled slots 0 (level + 1) := by
  intro i s found
  rw [if_neg (Nat.not_lt_zero i)]
  have before := h i s found
  split at before
  · exact before
  · rename_i back
    exact share_of_full (full i s (by omega) found) before

/-- A cursor behind the last slot goes to the first. -/
lemma Levelled.wrap (h : Levelled slots (position + 1) level) (inside : position < slots.length) :
    ∃ level, Levelled slots ((position + 1) % slots.length) level := by
  by_cases last : position + 1 = slots.length
  · refine ⟨level + 1, ?_⟩
    rw [last, Nat.mod_self]
    apply h.around
    intro i s behind found
    obtain ⟨inside', _⟩ := List.getElem?_eq_some_iff.1 found
    omega
  · exact ⟨level, by rwa [Nat.mod_eq_of_lt (by omega)]⟩

end Levelled

section reserve

variable {p q : Pool} {r : Reservation} {level : Nat}

/-- Room is reserved at the first slot with room from the cursor on, or else at the first one. -/
lemma reserve?_turn (e : p.reserve? = some (r, q)) :
    ∃ i slot, i < p.slots.length ∧
      p.slots[(p.cursor + i) % p.slots.length]? = some slot ∧ slot.hasCapacity = true ∧
      (∀ k < i, ∀ s,
        p.slots[(p.cursor + k) % p.slots.length]? = some s → s.hasCapacity = false) ∧
      q.slots = p.slots.set ((p.cursor + i) % p.slots.length)
        { slot with opened := slot.opened + 1 } ∧
      q.cursor = ((p.cursor + i) % p.slots.length + 1) % p.slots.length := by
  unfold reserve? at e
  split at e
  · cases e
  · split at e
    · cases e
    · split at e
      · cases e
      · rename_i position slot found
        cases e
        have there := getElem?_of_mem_turns (List.mem_of_find?_eq_some found)
        obtain ⟨i, here, rfl, room, earlier⟩ := turns_find? found
        obtain ⟨inside, _⟩ := List.getElem?_eq_some_iff.1 here
        rw [rotation, List.length_rotate] at inside
        refine ⟨i, slot, inside, there, room, fun k before s turn => earlier s ?_, rfl, rfl⟩
        rw [Nat.add_comm, ← List.getElem?_rotate (by omega), ← rotation,
          ← List.getElem?_take_of_lt before] at turn
        exact List.mem_of_getElem? turn

/-- The slots are filled to a level again when the turn that has room has taken one more. -/
lemma Levelled.turn {i : Nat} {slot : Slot} (h : Levelled p.slots p.cursor level)
    (inside : p.cursor ≤ p.slots.length) (less : i < p.slots.length)
    (here : p.slots[(p.cursor + i) % p.slots.length]? = some slot)
    (room : slot.hasCapacity = true)
    (passed : ∀ k < i, ∀ s,
      p.slots[(p.cursor + k) % p.slots.length]? = some s → s.hasCapacity = false) :
    ∃ level, Levelled
      (p.slots.set ((p.cursor + i) % p.slots.length) { slot with opened := slot.opened + 1 })
      ((p.cursor + i) % p.slots.length + 1) level := by
  by_cases before : p.cursor + i < p.slots.length
  · -- The turn comes before the last slot.
    rw [Nat.mod_eq_of_lt before] at here ⊢
    refine ⟨level, h.advance (Nat.le_add_right _ _) here room fun j s behind front there => ?_⟩
    apply passed (j - p.cursor) (by omega) s
    rwa [Nat.add_sub_cancel' behind, Nat.mod_eq_of_lt (by omega)]
  · -- No slot from the cursor on has room, and the turns have begun anew.
    have around : p.cursor + i = p.slots.length + (p.cursor + i - p.slots.length) := by omega
    rw [around, Nat.add_mod_left, Nat.mod_eq_of_lt (by omega)] at here ⊢
    have anew : Levelled p.slots 0 (level + 1) := by
      apply h.around
      intro j s behind there
      obtain ⟨last, _⟩ := List.getElem?_eq_some_iff.1 there
      apply passed (j - p.cursor) (by omega) s
      rwa [Nat.add_sub_cancel' behind, Nat.mod_eq_of_lt last]
    refine ⟨level + 1, anew.advance (Nat.zero_le _) here room fun j s _ front there => ?_⟩
    apply passed (p.slots.length - p.cursor + j) (by omega) s
    have turned : p.cursor + (p.slots.length - p.cursor + j) = p.slots.length + j := by omega
    rwa [turned, Nat.add_mod_left, Nat.mod_eq_of_lt (by omega)]

/-- The slots stay level when the next one with room is served. -/
lemma Levelled.reserve (h : Levelled p.slots p.cursor level) (inside : p.cursor ≤ p.slots.length)
    (e : p.reserve? = some (r, q)) : ∃ level, Levelled q.slots q.cursor level := by
  obtain ⟨i, slot, less, here, room, passed, slots, cursor⟩ := reserve?_turn e
  obtain ⟨level, taken⟩ := h.turn inside less here room passed
  have wrapped := taken.wrap (by simpa using Nat.mod_lt _ (by omega))
  rw [List.length_set] at wrapped
  rwa [slots, cursor]

end reserve

/-! ### One connection more -/

/-- How many idle connections there are to a host. -/
def idleTo (p : Pool) (host : HostId) : Nat := p.available.countP (·.connection.host = host)

/-- A pool for a configuration while its connections are opened ahead. -/
structure Filling (config : Config) (p : Pool) : Prop where
  hosts : p.hosts = config.hosts
  open_ : p.closed = false
  books : Books config.maxTotal.toNat p [] []
  orderly : p.Orderly
  levelled : ∃ level, Levelled p.slots p.cursor level
  idle : ∀ s ∈ p.slots, s.opened = p.idleTo s.config.id
  sum : (p.slots.map (·.opened)).sum = p.available.length

section Filling

variable {config : Config} {p q : Pool} {r : Reservation}

/-- While connections are opened ahead, all of them are idle. -/
lemma Filling.total (h : Filling config p) : p.total = p.available.length := by
  unfold Pool.total
  rw [h.books.pending, h.books.inUse.length_eq]
  rfl

/-- One more at a position is one more in all. -/
lemma sum_set {l : List Nat} {i n : Nat} (here : l[i]? = some n) :
    (l.set i (n + 1)).sum = l.sum + 1 := by
  induction l generalizing i with
  | nil => simp at here
  | cons m l ih =>
    cases i with
    | zero =>
      obtain rfl : m = n := by simpa using here
      rw [List.set_cons_zero, List.sum_cons, List.sum_cons]
      omega
    | succ i =>
      rw [List.set_cons_succ, List.sum_cons, List.sum_cons, ih (by simpa using here)]
      omega

/-- A connection that is shelved is one more to its host and none to the others. -/
lemma idleTo_shelve (q : Pool) (r : Reservation) (address : Address) (host : HostId) :
    ((q.number.consume).shelve (q.connection r address)).idleTo host =
      q.idleTo host + if r.host = host then 1 else 0 := by
  show (q.available ++ [q.connection r address]).countP _ = _
  rw [List.countP_append, List.countP_singleton]
  exact congrArg (q.idleTo host + ·) (if_congr decide_eq_true_iff rfl rfl)

/-- One more connection opened ahead leaves the pool filling. -/
lemma Filling.ahead (h : Filling config p) (e : p.reserve? = some (r, q)) (address : Address) :
    Filling config ((q.number.consume).shelve (q.connection r address)) := by
  have books := (h.books.reserve e).shelve (reserve?_configured h.books e) address
  have levelled := h.levelled.elim fun level l => l.reserve h.orderly.inside e
  have orderly : ((q.number.consume).shelve (q.connection r address)).Orderly :=
    (((h.orderly.effect (.reserved e)).move .number).move .consume).move
      (.shelve (q.connection r address))
  obtain ⟨_, _, position, slot, here, _, rfl, rfl⟩ := reserve?_eq_some e
  have distinct := h.orderly.distinct
  have mem : slot ∈ p.slots := List.mem_of_getElem? here
  have recounted := set_eq_recount distinct here (· + 1)
  refine ⟨?_, h.open_, books, orderly, levelled, ?_, ?_⟩
  · show (p.slots.set position { slot with opened := slot.opened + 1 }).map (·.config) = _
    have same : (p.slots.map (·.config))[position]? = some slot.config := by
      rw [List.getElem?_map, here]
      rfl
    obtain ⟨inside, same⟩ := List.getElem?_eq_some_iff.1 same
    rw [← h.hosts, List.map_set, ← same]
    exact List.set_getElem_self inside
  · show ∀ s ∈ p.slots.set position { slot with opened := slot.opened + 1 }, _
    rw [recounted]
    refine forall_mem_recount (fun s m k => ?_) (fun s m k => ?_)
    · obtain rfl : s = slot := List.inj_on_of_nodup_map distinct m mem k
      rw [idleTo_shelve, if_pos rfl]
      exact congrArg (· + 1) (h.idle s m)
    · have other : slot.config.id ≠ s.config.id := by
        intro same
        exact k (congrArg (·.key) (List.inj_on_of_nodup_map h.orderly.hosts m mem same.symm))
      rw [idleTo_shelve, if_neg other]
      exact h.idle s m
  · show ((p.slots.set position { slot with opened := slot.opened + 1 }).map (·.opened)).sum =
      (p.available ++ [_]).length
    rw [List.map_set, sum_set (by rw [List.getElem?_map, here]; rfl), h.sum, List.length_append]
    rfl

end Filling

/-! ### Full pools -/

/-- How many connections a pool for a configuration may hold and its hosts take. -/
def capacity (config : Config) : Nat :=
  if ∃ h ∈ config.hosts, h.maxConnections = 0 then config.maxTotal.toNat
  else min config.maxTotal.toNat (config.hosts.map (·.maxConnections.toNat)).sum

/-- A host has as many idle connections as it takes. -/
def AtCap (p : Pool) (h : HostConfig) : Prop :=
  h.maxConnections ≠ 0 ∧ p.idleTo h.id = h.maxConnections.toNat

/-- Of two hosts the later has no more idle connections than the earlier, unless that one is at its
cap, and the earlier has at most one more, unless the later is at its cap. -/
def Spread (config : Config) (p : Pool) : Prop :=
  ∀ (i j : Nat) (a b : HostConfig),
    i < j → config.hosts[i]? = some a → config.hosts[j]? = some b →
    (p.idleTo b.id ≤ p.idleTo a.id ∨ p.AtCap a) ∧
      (p.idleTo a.id ≤ p.idleTo b.id + 1 ∨ p.AtCap b)

section Filling

variable {config : Config} {p : Pool}

/-- A share is no more than the level. -/
lemma share_le (h : HostConfig) (level : Nat) : share h level ≤ level := by
  unfold share
  split
  · exact le_rfl
  · exact Nat.min_le_left _ _

/-- A share is the level, or all that the host takes. -/
lemma share_eq (h : HostConfig) (level : Nat) :
    share h level = level ∨ h.maxConnections ≠ 0 ∧ share h level = h.maxConnections.toNat := by
  unfold share
  split
  · exact .inl rfl
  · rename_i limited
    rcases Nat.le_total level h.maxConnections.toNat with low | high
    · exact .inl (Nat.min_eq_left low)
    · exact .inr ⟨limited, Nat.min_eq_right high⟩

/-- Each host of the configuration has a slot, which counts its idle connections. -/
lemma Filling.getElem? (h : Filling config p) {i : Nat} {host : HostConfig}
    (there : config.hosts[i]? = some host) :
    ∃ s, p.slots[i]? = some s ∧ s.config = host ∧ s.opened = p.idleTo host.id := by
  rw [← h.hosts, Pool.hosts, List.getElem?_map] at there
  obtain ⟨s, here, rfl⟩ := Option.map_eq_some_iff.1 there
  exact ⟨s, here, rfl, h.idle s (List.mem_of_getElem? here)⟩

/-- A pool that is filled level by level is spread over its hosts. -/
lemma Filling.spread (h : Filling config p) : p.Spread config := by
  intro i j a b less first second
  obtain ⟨level, levelled⟩ := h.levelled
  obtain ⟨s, here, rfl, idle⟩ := h.getElem? first
  obtain ⟨t, there, rfl, idle'⟩ := h.getElem? second
  have filled := levelled i s here
  have filled' := levelled j t there
  -- The level of the earlier host is that of the later or the next one.
  generalize upper : (if i < p.cursor then level + 1 else level) = m at filled
  generalize lower : (if j < p.cursor then level + 1 else level) = n at filled'
  have between : n ≤ m ∧ m ≤ n + 1 := by
    rw [← upper, ← lower]
    split <;> split <;> omega
  have most := share_le s.config m
  have most' := share_le t.config n
  unfold AtCap
  rw [← idle, ← idle', filled, filled']
  constructor
  · rcases share_eq s.config m with all | cap
    · exact .inl (by omega)
    · exact .inr cap
  · rcases share_eq t.config n with all | cap
    · exact .inl (by omega)
    · exact .inr cap

/-- A pool for which nothing more can be reserved holds as much as it may. -/
lemma Filling.full (h : Filling config p) (bounded : 0 < config.maxTotal.toNat)
    (none_ : p.reserve? = none) : p.available.length = capacity config := by
  have room : p.available.length ≤ config.maxTotal.toNat := by
    have room := h.books.room
    rw [h.total, h.books.limit] at room
    omega
  have caps : config.hosts.map (·.maxConnections.toNat) =
      p.slots.map (·.config.maxConnections.toNat) := by
    rw [← h.hosts, Pool.hosts, List.map_map]
    rfl
  have limits {s : Slot} (m : s ∈ p.slots) (limited : s.config.maxConnections ≠ 0) :
      s.opened ≤ s.config.maxConnections.toNat :=
    (h.books.balanced.limited s m).resolve_left limited
  have listed {s : Slot} (m : s ∈ p.slots) : s.config ∈ config.hosts := by
    rw [← h.hosts]
    exact List.mem_map_of_mem m
  unfold capacity
  rw [caps]
  rw [reserve?_eq_none_iff, h.books.limit, h.total] at none_
  rcases none_ with closed | ⟨_, full⟩ | full
  · rw [h.open_] at closed
    cases closed
  · split
    · omega
    · rename_i limited
      -- Each slot has at most what its host takes, so that the hosts take all of it.
      have all : (p.slots.map (·.opened)).sum ≤
          (p.slots.map (·.config.maxConnections.toNat)).sum :=
        List.sum_le_sum fun s m => limits m fun zero => limited ⟨_, listed m, zero⟩
      rw [h.sum] at all
      omega
  · have limited {s : Slot} (m : s ∈ p.slots) :
        s.config.maxConnections ≠ 0 ∧ s.opened = s.config.maxConnections.toNat := by
      have full : ¬ s.hasCapacity = true := by simp [full s m]
      rw [Slot.hasCapacity_iff, not_or] at full
      have most := limits m full.1
      exact ⟨full.1, by omega⟩
    have all : p.slots.map (·.opened) = p.slots.map (·.config.maxConnections.toNat) :=
      List.map_congr_left fun s m => (limited m).2
    rw [if_neg, ← all, h.sum, Nat.min_eq_right room]
    rintro ⟨host, m, zero⟩
    rw [← h.hosts] at m
    obtain ⟨s, m', rfl⟩ := List.mem_map.1 m
    exact (limited m').1 zero

end Filling

/-! ### The loop -/

/-- An attempt to connect to a host, and what came of it. -/
structure Attempt where
  host : HostId
  answer : Except Fault Address

def Attempt.Succeeded (a : Attempt) : Prop := ∃ address, a.answer = .ok address

variable {σ : Type}

/-- Connects, and notes the attempt behind those before it. -/
def recorded (dial : Nat → HostId → StateT σ Option (Except Fault Address)) (connection : Nat)
    (host : HostId) : StateT (σ × List Attempt) Option (Except Fault Address) :=
  fun (s, attempts) =>
    (dial connection host s).map fun (answer, s) => (answer, s, attempts ++ [{ host, answer }])

/-- What opening connections ahead comes to, with all attempts: a full pool, or the fault of the
first attempt that failed, which is the last one. -/
inductive Filled (config : Config) : List Attempt → Except Fault Pool → Prop where
  | full {attempts : List Attempt} {p : Pool} :
    (∀ a ∈ attempts, a.Succeeded) → Filling config p → p.reserve? = none →
    Filled config attempts (.ok p)
  | failed {attempts : List Attempt} {host : HostId} {fault : Fault} :
    (∀ a ∈ attempts, a.Succeeded) →
    Filled config (attempts ++ [{ host, answer := .error fault }]) (.error fault)

section loop

variable {config : Config} {dial : Nat → HostId → StateT σ Option (Except Fault Address)} {p : Pool}

/-- Noting the attempts changes nothing else. -/
lemma prefill_recorded (count : Nat) (p : Pool) (s : σ) (attempts : List Attempt) :
    prefill dial count p s =
      (prefill (recorded dial) count p (s, attempts)).map fun built => (built.1, built.2.1) := by
  induction count generalizing p s attempts with
  | zero => rfl
  | succ count ih =>
    unfold prefill
    cases p.reserve? with
    | none => rfl
    | some reserved =>
      obtain ⟨r, q⟩ := reserved
      simp only [bind, StateT.bind, recorded]
      cases dial q.nextConnection r.host s with
      | none => rfl
      | some answered =>
        obtain ⟨answer, s'⟩ := answered
        cases answer with
        | error fault => rfl
        | ok address => exact ih _ s' _

/-- Connections are opened ahead until the pool is full or one cannot be opened, in no more than so
many attempts as the pool may hold. -/
lemma exists_filled (bounded : 0 < config.maxTotal.toNat)
    (responds : ∀ connection host s, ∃ answered, dial connection host s = some answered)
    {count : Nat} (h : Filling config p)
    (enough : config.maxTotal.toNat ≤ p.available.length + count) (s : σ) {attempts : List Attempt}
    (before : ∀ a ∈ attempts, a.Succeeded) :
    ∃ outcome s' all, prefill (recorded dial) count p (s, attempts) = some (outcome, s', all) ∧
      Filled config all outcome := by
  induction count generalizing p s attempts with
  | zero =>
    have none_ : p.reserve? = none := by
      rw [reserve?_eq_none_iff, h.books.limit, h.total]
      exact .inr (.inl ⟨bounded, enough⟩)
    exact ⟨_, _, _, rfl, .full before h none_⟩
  | succ count ih =>
    unfold prefill
    cases e : p.reserve? with
    | none => exact ⟨_, _, _, rfl, .full before h e⟩
    | some reserved =>
      obtain ⟨r, q⟩ := reserved
      obtain ⟨⟨answer, s'⟩, answered⟩ := responds q.nextConnection r.host s
      simp only [bind, StateT.bind, recorded, answered, Option.map_some]
      cases answer with
      | error fault => exact ⟨_, _, _, rfl, .failed before⟩
      | ok address =>
        apply ih (h.ahead e address)
        · obtain ⟨_, _, _, _, _, _, _, rfl⟩ := reserve?_eq_some e
          show _ ≤ (p.available ++ [_]).length + count
          rw [List.length_append, List.length_singleton]
          omega
        · intro a m
          rcases List.mem_append.1 m with old | new
          · exact before a old
          · rw [List.mem_singleton.1 new]
            exact ⟨address, rfl⟩

end loop

/-! ### New pools -/

section new

variable {config : Config} {p : Pool}

/-- Hosts that differ are added without a fault. -/
lemma exists_addHosts {configs : List HostConfig}
    (distinct : ((p.hosts ++ configs).map HostConfig.id).Nodup) :
    ∃ q, p.addHosts configs = .ok q := by
  unfold addHosts
  induction configs generalizing p with
  | nil => exact ⟨p, rfl⟩
  | cons config configs ih =>
    have fresh : config.id ∉ p.hosts.map HostConfig.id := by
      rw [List.map_append, List.nodup_append] at distinct
      exact fun m => distinct.2.2 _ m _ (List.mem_map_of_mem List.mem_cons_self) rfl
    rw [List.foldlM_cons]
    unfold addHost
    rw [if_neg fresh]
    apply ih
    simpa [Pool.hosts] using distinct

/-- There is a new pool for every valid configuration. -/
lemma exists_ofConfig (valid : config.Valid) : ∃ p, ofConfig config = .ok p := by
  have checked := (Config.validate_eq_ok_iff config).2 valid
  unfold ofConfig
  rw [checked]
  exact exists_addHosts valid.distinct

/-- A new pool has no connections. -/
lemma filling_ofConfig (made : ofConfig config = .ok p) : Filling config p := by
  obtain ⟨cursor, open_, _⟩ := ofConfig_start made
  have books : Books config.maxTotal.toNat p [] [] :=
    ofConfig_induct (P := fun p => Books config.maxTotal.toNat p [] []) (books_empty _)
      (fun h added => h.addHost added) made
  have empty : p.available = [] ∧ ∀ s ∈ p.slots, s.opened = 0 := by
    refine ofConfig_induct (P := fun p => p.available = [] ∧ ∀ s ∈ p.slots, s.opened = 0)
      (fun _ => ⟨rfl, nofun⟩) (fun h added => ?_) made
    obtain ⟨_, rfl⟩ := addHost_eq_ok added
    refine ⟨h.1, fun s m => ?_⟩
    rcases List.mem_append.1 m with old | new
    · exact h.2 s old
    · rw [List.mem_singleton.1 new]
  obtain ⟨nothing, unopened⟩ := empty
  refine ⟨ofConfig_hosts made, open_, books, orderly_ofConfig made, ⟨0, ?_⟩, ?_, ?_⟩
  · intro i s there
    rw [cursor, if_neg (Nat.not_lt_zero i), unopened s (List.mem_of_getElem? there)]
    exact (Nat.le_zero.1 (share_le s.config 0)).symm
  · intro s m
    rw [unopened s m, idleTo, nothing]
    rfl
  · rw [nothing, List.map_congr_left unopened]
    simp

end new

/-- A pool whose connections are opened ahead, for a configuration that is accepted, where every
attempt to connect comes to something. Building it ends. If all attempts succeed, nothing more can
be reserved then: no connection is being opened or lent, there are as many idle ones as the pool
may hold and its hosts take, and they are spread evenly over the hosts. The fault of the first
attempt that fails is that of the construction, and there is no attempt after it. -/
theorem build_eager {config : Config} (valid : config.validate = .ok ())
    (eager : config.lazyConnect = false)
    {dial : Nat → HostId → StateT σ Option (Except Fault Address)}
    (responds : ∀ connection host s, ∃ answered, dial connection host s = some answered) (s : σ) :
    ∃ outcome s' attempts,
      build dial config s = some (outcome, s') ∧
      build (recorded dial) config (s, []) = some (outcome, s', attempts) ∧
      ((∀ a ∈ attempts, a.Succeeded) →
        ∃ p, outcome = .ok p ∧ p.reserve? = none ∧ p.pending = 0 ∧ p.inUse = [] ∧
          p.available.length = capacity config ∧ p.Spread config) ∧
      ∀ before host fault after, attempts = before ++ { host, answer := .error fault } :: after →
        (∀ a ∈ before, a.Succeeded) → after = [] ∧ outcome = .error fault := by
  rw [Config.validate_eq_ok_iff] at valid
  obtain ⟨new, made⟩ := exists_ofConfig valid
  have filling := filling_ofConfig made
  have bounded : 0 < config.maxTotal.toNat := by
    have nonzero := valid.bounded eager
    rw [Ne, ← UInt64.toNat_inj] at nonzero
    exact Nat.pos_of_ne_zero nonzero
  obtain ⟨outcome, s', attempts, built, filled⟩ :=
    exists_filled bounded responds filling (Nat.le_add_left _ _) s (List.forall_mem_nil _)
  have building {τ : Type} (d : Nat → HostId → StateT τ Option (Except Fault Address)) (t : τ) :
      build d config t = prefill d config.maxTotal.toNat new t := by
    unfold build
    rw [made, ← filling.books.limit]
    simp only [eager, Bool.false_eq_true, if_false]
  refine ⟨outcome, s', attempts, ?_, (building _ _).trans built, ?_⟩
  · rw [building, prefill_recorded _ _ _ [], built]
    rfl
  cases filled with
  | @full _ p succeeded full none_ =>
    refine ⟨fun _ => ⟨p, rfl, none_, full.books.pending, full.books.inUse.eq_nil,
      full.full bounded none_, full.spread⟩, ?_⟩
    rintro before host fault after rfl _
    obtain ⟨address, ok⟩ := succeeded _ (List.mem_append_right _ List.mem_cons_self)
    cases ok
  | @failed first last fault succeeded =>
    constructor
    · intro all
      obtain ⟨address, ok⟩ := all _ (List.mem_append_right _ List.mem_cons_self)
      cases ok
    · intro before host fault' after parts _
      rcases List.eq_nil_or_concat' after with rfl | ⟨after, other, rfl⟩
      · obtain ⟨_, same⟩ := List.append_inj' parts rfl
        cases same
        exact ⟨rfl, rfl⟩
      · -- An attempt behind a failed one would make that one of those that succeeded.
        rw [← List.cons_append, ← List.append_assoc] at parts
        obtain ⟨rfl, _⟩ := List.append_inj' parts rfl
        obtain ⟨address, ok⟩ := succeeded _ (List.mem_append_right _ List.mem_cons_self)
        cases ok

/-- Three hosts with different caps, for which five connections are opened ahead. -/
def unevenHosts : Config where
  hosts :=
    [{ host := "a", port := 1, maxConnections := 1 }, { host := "b", port := 2 },
      { host := "c", port := 3, maxConnections := 2 }]
  maxTotal := 5
  lazyConnect := false

/-- A network in which one host is down. -/
def outage (down : HostId) : Nat → HostId → StateT Unit Option (Except Fault Address) :=
  fun _ host =>
    pure (if host = down then .error (.connect host.host "refused") else .ok ⟨.v4 .loopback, 1⟩)

/-- Five connections are opened for `unevenHosts`, and with the last host down the attempt to
connect to it is the last one. -/
theorem build_eager_unevenHosts :
    (∃ p, build (outage ⟨"d", 4⟩) unevenHosts () = some (.ok p, ()) ∧ p.available.length = 5 ∧
      p.Spread unevenHosts) ∧
    ∃ s attempts, build (recorded (outage ⟨"c", 3⟩)) unevenHosts ((), []) =
        some (.error (.connect "c" "refused"), s, attempts) ∧
      attempts.map (·.host) = [⟨"a", 1⟩, ⟨"b", 2⟩, ⟨"c", 3⟩] := by
  have responds (down : HostId) (connection : Nat) (host : HostId) (s : Unit) :
      ∃ answered, outage down connection host s = some answered := ⟨_, rfl⟩
  have valid : unevenHosts.validate = .ok () := by decide
  let reached (host : HostId) : Attempt := ⟨host, .ok ⟨.v4 .loopback, 1⟩⟩
  have succeeded (host : HostId) : (reached host).Succeeded := ⟨_, rfl⟩
  constructor
  · obtain ⟨outcome, ⟨⟩, attempts, built, noted, full, _⟩ :=
      build_eager valid rfl (responds ⟨"d", 4⟩) ()
    have logged : (build (recorded (outage ⟨"d", 4⟩)) unevenHosts ((), [])).map (·.2.2) =
        some ([⟨"a", 1⟩, ⟨"b", 2⟩, ⟨"c", 3⟩, ⟨"b", 2⟩, ⟨"c", 3⟩].map reached) := by rfl
    rw [noted] at logged
    obtain rfl := Option.some.inj logged
    obtain ⟨p, rfl, _, _, _, count, spread⟩ := full (by simp [succeeded])
    exact ⟨p, built, count, spread⟩
  · obtain ⟨outcome, ⟨⟩, attempts, _, noted, _, stopped⟩ :=
      build_eager valid rfl (responds ⟨"c", 3⟩) ()
    have logged : (build (recorded (outage ⟨"c", 3⟩)) unevenHosts ((), [])).map (·.2.2) =
        some ([⟨"a", 1⟩, ⟨"b", 2⟩].map reached ++
          [⟨⟨"c", 3⟩, .error (.connect "c" "refused")⟩]) := by rfl
    rw [noted] at logged
    obtain rfl := Option.some.inj logged
    obtain ⟨_, rfl⟩ := stopped _ _ _ [] rfl (by simp [succeeded])
    exact ⟨(), _, noted, rfl⟩

end Pool

end StoreClient
