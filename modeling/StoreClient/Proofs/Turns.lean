import Mathlib
import StoreClient.Proofs.Rotation

/-!
# Taking turns

Where a connection has to be opened, it is one to the next host that has room, and the hosts take turns.

A slot that comes before another one, and has room whenever room is reserved, is served first
(`Before.run`). Hence between two reservations for one slot all those have had theirs that had room
all the time (`round_robin`).
-/

namespace StoreClient

namespace Pool

/-! ### Waiting for a turn -/

/-- The slot of a key is there and has room. -/
def HasRoom (p : Pool) (key : Nat) : Prop := ∃ s ∈ p.slots, s.key = key ∧ s.hasCapacity = true

/-- The slot of a key has room whenever a move reserves any. -/
def RoomThroughout (p : Pool) (key : Nat) (moves : List Move) : Prop :=
  ∀ (earlier : List Move) (m : Move) (later : List Move), moves = earlier ++ m :: later →
    (p.run earlier).granted m ≠ none → (p.run earlier).HasRoom key

/-- As long as the slots of both keys are there, that of the first comes before that of the other. -/
structure Before (p : Pool) (key other : Nat) : Prop where
  known : key < p.nextKey ∧ other < p.nextKey
  order : key ∈ p.slots.map (·.key) → other ∈ p.slots.map (·.key) →
    [key, other].Sublist (p.rotation.map (·.key))

section Before

variable {p q : Pool} {key other : Nat}

/-- A slot that has room throughout has it at the first reservation. -/
lemma RoomThroughout.head {m : Move} {moves : List Move}
    (h : p.RoomThroughout key (m :: moves)) (some_ : p.granted m ≠ none) : p.HasRoom key :=
  h [] m moves rfl some_

/-- A slot that has room throughout has it behind the first move. -/
lemma RoomThroughout.tail {m : Move} {moves : List Move}
    (h : p.RoomThroughout key (m :: moves)) : (p.move m).RoomThroughout key moves := by
  rintro earlier m' later rfl
  exact h (m :: earlier) m' later rfl

/-- The keys take turns as the slots do. -/
lemma rotation_keys (p : Pool) :
    p.rotation.map (·.key) = (p.slots.map (·.key)).rotate p.cursor := List.map_rotate _ _ _

/-- What comes after something that is passed over comes after what is taken. -/
lemma sublist_back {front back : List Nat} {taken : Nat}
    (sub : [key, other].Sublist (front ++ taken :: back)) (passed : key ∉ front)
    (left : key ≠ taken) : [key, other].Sublist back := by
  obtain ⟨l, l', e, inFront, sub'⟩ := List.sublist_append_iff.1 sub
  cases l with
  | nil =>
    rw [List.nil_append] at e
    rw [← e] at sub'
    exact sub'.of_cons_of_ne left
  | cons first l =>
    obtain rfl : key = first := (List.cons.inj e).1
    exact absurd (inFront.subset List.mem_cons_self) passed

/-- A slot with room is none of those that are full. -/
lemma HasRoom.not_mem (h : p.Orderly) (room : p.HasRoom key) {front back : List Slot}
    (whole : p.rotation = front ++ back) (full : ∀ s ∈ front, s.hasCapacity = false) :
    key ∉ front.map (·.key) := by
  obtain ⟨s, m, rfl, free⟩ := room
  intro inFront
  obtain ⟨s', m', same⟩ := List.mem_map.1 inFront
  have there : s' ∈ p.slots := by
    rw [← mem_rotation, whole]
    exact List.mem_append_left _ m'
  obtain rfl := List.inj_on_of_nodup_map h.distinct there m same
  rw [full s' m'] at free
  cases free

/-- A slot that has room and is not served is passed by no slot behind it. -/
lemma Before.reserve (h : p.Orderly) (b : p.Before key other) {r : Reservation}
    (e : p.reserve? = some (r, q)) (room : p.HasRoom key) (waits : r.slot ≠ key) :
    r.slot ≠ other ∧ q.Before key other := by
  obtain ⟨slots, _, nextKey⟩ := reserve?_recounted h e
  obtain ⟨front, slot, back, whole, full, _, rfl, rotation⟩ := reserve?_rotation e
  have passed := room.not_mem h whole full
  obtain ⟨s, m, rfl, _⟩ := room
  have known := b.known
  rw [← nextKey] at known
  have keys : p.rotation.map (·.key) = front.map (·.key) ++ slot.key :: back.map (·.key) := by
    rw [whole, List.map_append, List.map_cons]
  have distinct : (front.map (·.key) ++ slot.key :: back.map (·.key)).Nodup := by
    rw [← keys, rotation_keys, List.nodup_rotate]
    exact h.distinct
  by_cases there : other ∈ p.slots.map (·.key)
  · -- The slots before the one that is served have no room, so both are behind it.
    have sub := b.order (List.mem_map_of_mem m) there
    rw [keys] at sub
    have behind := sublist_back sub passed (Ne.symm waits)
    refine ⟨?_, known, fun _ _ => ?_⟩
    · rintro rfl
      have rest := List.nodup_append.1 distinct |>.2.1
      exact rest.notMem (behind.subset (by simp))
    · rw [rotation, List.append_assoc, List.map_append]
      exact behind.trans (List.sublist_append_left _ _)
  · refine ⟨?_, known, fun _ there' => ?_⟩
    · rintro rfl
      refine there (List.mem_map_of_mem ?_)
      rw [← mem_rotation, whole]
      exact List.mem_append_right _ List.mem_cons_self
    · rw [slots, recount_keys] at there'
      exact absurd there' there

/-- The order of two slots stays when a host is added. -/
lemma Before.addHost (h : p.Orderly) (b : p.Before key other) {config : HostConfig}
    (e : p.addHost config = .ok q) : q.Before key other := by
  obtain ⟨front, back, whole, rotation⟩ := addHost_rotation h e
  obtain ⟨_, rfl⟩ := addHost_eq_ok e
  -- The key of the new slot is neither of the two, which were known before.
  have old {k : Nat} (known : k < p.nextKey)
      (m : k ∈ (p.slots ++ [({ key := p.nextKey, config } : Slot)]).map (·.key)) :
      k ∈ p.slots.map (·.key) := by
    rw [List.map_append, List.map_singleton, List.mem_append, List.mem_singleton] at m
    exact m.resolve_right (Nat.ne_of_lt known)
  refine ⟨b.known.imp Nat.lt_succ_of_lt Nat.lt_succ_of_lt, fun m m' => ?_⟩
  have sub := b.order (old b.known.1 m) (old b.known.2 m')
  rw [whole] at sub
  rw [rotation]
  refine sub.trans (List.Sublist.map _ ?_)
  exact (List.append_sublist_append_left _).2 (List.sublist_cons_self _ _)

/-- The order of two slots stays when a host is removed. -/
lemma Before.removeHost (h : p.Orderly) (b : p.Before key other) {id : HostId}
    (e : p.removeHost id = .ok q) : q.Before key other := by
  obtain ⟨s, _, _, rotation, _, eq⟩ := removeHost_rotation h e
  have slots : q.slots = p.slots.filter (·.key ≠ s.key) := by rw [eq]
  have nextKey : q.nextKey = p.nextKey := by rw [eq]
  have left {k : Nat} (m : k ∈ q.slots.map (·.key)) : k ∈ p.slots.map (·.key) ∧ k ≠ s.key := by
    rw [slots] at m
    obtain ⟨s', m', rfl⟩ := List.mem_map.1 m
    obtain ⟨old, other⟩ := List.mem_filter.1 m'
    exact ⟨List.mem_map_of_mem old, by simpa using other⟩
  refine ⟨nextKey ▸ b.known, fun m m' => ?_⟩
  obtain ⟨old, ne⟩ := left m
  obtain ⟨old', ne'⟩ := left m'
  have sub := (b.order old old').filter (· ≠ s.key)
  rw [List.filter_eq_self.2 (by simp [ne, ne']), List.filter_map] at sub
  rw [rotation]
  exact sub

/-- While the slot before waits and has room, the other is not served and stays behind it. -/
lemma Before.effect (h : p.Orderly) (b : p.Before key other) {m : Move}
    {granted : Option Reservation} (effect : Effect p m granted q)
    (room : granted ≠ none → p.HasRoom key) (waits : ∀ r ∈ granted, r.slot ≠ key) :
    (∀ r ∈ granted, r.slot ≠ other) ∧ q.Before key other := by
  cases effect with
  | recounted key' f slots cursor nextKey =>
    refine ⟨nofun, nextKey ▸ b.known, ?_⟩
    rw [rotation_keys, slots, recount_keys, cursor, ← rotation_keys]
    exact b.order
  | @reserved r q e =>
    obtain ⟨ne, b'⟩ := b.reserve h e (room (Option.some_ne_none r)) (waits r rfl)
    refine ⟨?_, b'⟩
    rintro r' ⟨⟩
    exact ne
  | hostAdded e => exact ⟨nofun, b.addHost h e⟩
  | hostRemoved e => exact ⟨nofun, b.removeHost h e⟩

/-- As long as a slot waits that has room at each reservation, no slot behind it is served. -/
lemma Before.run (h : p.Orderly) (b : p.Before key other) {moves : List Move}
    (room : p.RoomThroughout key moves) (waits : ∀ r ∈ p.grants moves, r.slot ≠ key) :
    ∀ r ∈ p.grants moves, r.slot ≠ other := by
  induction moves generalizing p with
  | nil => exact nofun
  | cons m moves ih =>
    unfold grants at waits ⊢
    have now : ∀ r ∈ p.granted m, r.slot ≠ key := fun r m' =>
      waits r (List.mem_append_left _ (Option.mem_toList.2 m'))
    obtain ⟨served, b'⟩ := b.effect h (effect_move p m) room.head now
    have later := ih (h.move m) b' room.tail fun r m' => waits r (List.mem_append_right _ m')
    intro r m'
    rcases List.mem_append.1 m' with first | rest
    · exact served r (Option.mem_toList.1 first)
    · exact later r rest

end Before

/-! ### Hosts without limits -/

/-- Whether a move is about the hosts that there are. -/
def Move.changesHosts : Move → Bool
  | .addHost _ => true
  | .removeHost _ => true
  | _ => false

section unlimited

variable {p q : Pool}

/-- Hosts without limits are served one after the other, from the cursor on. -/
lemma grants_unlimited (unlimited : ∀ s ∈ p.slots, s.config.maxConnections = 0)
    {moves : List Move} (fixed : ∀ m ∈ moves, m.changesHosts = false) {k : Nat} {r : Reservation}
    (served : (p.grants moves)[k]? = some r) :
    ((p.rotation.map (·.config.id)).rotate k).head? = some r.host := by
  -- Each reservation takes the first host of the rotation and moves it to the end.
  induction moves generalizing p k with
  | nil => cases served
  | cons m moves ih =>
    have effect := effect_move p m
    unfold grants at served
    have fixed' := fixed m List.mem_cons_self
    have later := fun m' m'' => fixed m' (List.mem_cons_of_mem m m'')
    generalize p.granted m = granted at effect served
    generalize p.move m = q at effect served
    cases effect with
    | recounted key f slots cursor nextKey =>
      have unlimited' : ∀ s ∈ q.slots, s.config.maxConnections = 0 := by
        rw [slots]
        exact forall_mem_recount (fun s m _ => unlimited s m) (fun s m _ => unlimited s m)
      have hosts : q.rotation.map (·.config.id) = p.rotation.map (·.config.id) := by
        unfold rotation
        rw [List.map_rotate, slots, recount_hosts, cursor, List.map_rotate]
      rw [← hosts]
      exact ih unlimited' later served
    | @reserved r' q e =>
      obtain ⟨front, slot, back, whole, full, _, rfl, rotation⟩ := reserve?_rotation e
      have there {s : Slot} (m : s ∈ p.rotation) : s.config.maxConnections = 0 :=
        unlimited s (mem_rotation.1 m)
      cases front with
      | cons s front =>
        have none_ := full s List.mem_cons_self
        have zero : s.config.maxConnections = 0 := by
          apply there
          rw [whole]
          exact List.mem_cons_self
        simp [Slot.hasCapacity, zero] at none_
      | nil =>
        rw [List.nil_append] at whole
        rw [List.append_nil] at rotation
        cases k with
        | zero =>
          obtain rfl : _ = r := Option.some.inj served
          rw [whole, List.rotate_zero]
          rfl
        | succ k =>
          have unlimited' : ∀ s ∈ q.slots, s.config.maxConnections = 0 := by
            intro s m
            rw [← mem_rotation, rotation, List.mem_append, List.mem_singleton] at m
            rcases m with old | rfl
            · apply there
              rw [whole]
              exact List.mem_cons_of_mem _ old
            · apply there (s := slot)
              rw [whole]
              exact List.mem_cons_self
          have hosts : q.rotation.map (·.config.id) =
              (p.rotation.map (·.config.id)).rotate 1 := by
            rw [rotation, whole]
            simp
          have next := ih unlimited' later (by simpa using served)
          rw [hosts, List.rotate_rotate, Nat.add_comm] at next
          exact next
    | hostAdded e => cases fixed'
    | hostRemoved e => cases fixed'

end unlimited

/-! ### Round robin -/

section limits

variable {p : Pool}

/-- A move leaves the limit of the pool, and only closing closes it. -/
lemma move_limits (p : Pool) (m : Move) :
    (p.move m).maxTotal = p.maxTotal ∧
      ((p.move m).closed = true ↔ p.closed = true ∨ m = .close) := by
  cases m with
  | reserve =>
    simp only [move]
    split
    · rename_i r q e
      obtain ⟨_, _, _, _, _, _, _, rfl⟩ := reserve?_eq_some e
      simp
    · simp
  | takeIdle =>
    simp only [move]
    split
    · rename_i taken
      obtain ⟨_, _, _, rfl⟩ := takeIdle_eq_some_iff.1 taken
      simp [enlist]
    · simp
  | giveBack pooled =>
    simp only [move, giveBack]
    split <;> simp [shelve, forget]
  | addHost config =>
    simp only [move]
    split
    · rename_i q e
      obtain ⟨_, rfl⟩ := addHost_eq_ok e
      simp
    · simp
  | removeHost id =>
    simp only [move]
    split
    · rename_i q e
      obtain ⟨_, _, _, _, rfl⟩ := removeHost_eq_ok e
      simp
    · simp
  | _ => simp [move, consume, release, forget, number, enlist, shelve, close]

/-- Moves leave the limit of the pool, and only closing closes it. -/
lemma run_limits (p : Pool) (moves : List Move) :
    (p.run moves).maxTotal = p.maxTotal ∧
      ((p.run moves).closed = true ↔ p.closed = true ∨ .close ∈ moves) := by
  induction moves generalizing p with
  | nil => exact ⟨rfl, by simp [run]⟩
  | cons m moves ih =>
    obtain ⟨limit, closed⟩ := move_limits p m
    obtain ⟨limit', closed'⟩ := ih (p.move m)
    refine ⟨limit'.trans limit, closed'.trans ?_⟩
    rw [closed, List.mem_cons, or_assoc, eq_comm (a := m)]

/-- Nothing is reserved just where the pool is closed or full, or all of its hosts are. -/
lemma reserve?_eq_none_iff (p : Pool) :
    p.reserve? = none ↔
      p.closed = true ∨ (0 < p.maxTotal ∧ p.maxTotal ≤ p.total) ∨
        ∀ s ∈ p.slots, s.hasCapacity = false := by
  constructor
  · intro none_
    by_contra other
    obtain ⟨open_, room, host⟩ := not_or.1 other |>.imp_right not_or.1
    obtain ⟨r, q, e⟩ := exists_reserve? (by simpa using open_)
      (hasCapacity_iff.2 (by omega)) (by simpa using host)
    rw [none_] at e
    cases e
  · intro why
    cases e : p.reserve? with
    | none => rfl
    | some found =>
      obtain ⟨r, q⟩ := found
      obtain ⟨open_, room, position, slot, here, free, _⟩ := reserve?_eq_some e
      rw [hasCapacity_iff] at room
      rcases why with closed | full | none_
      · rw [open_] at closed
        cases closed
      · omega
      · rw [none_ slot (List.mem_of_getElem? here)] at free
        cases free

end limits

/-- The hosts of a new pool take turns, whatever has happened to it. -/
structure RoundRobin (config : Config) (new : Pool) (moves : List Move) : Prop where
  /-- The cursor is at a slot, or at the beginning if there are none. -/
  cursor : let p := new.run moves
    p.cursor < p.slots.length ∨ p.slots = [] ∧ p.cursor = 0
  /-- Keys go by the order in which the hosts were added. -/
  added : ((new.run moves).slots.map (·.key)).Pairwise (· < ·)
  refused : let p := new.run moves
    p.reserve? = none ↔
      .close ∈ moves ∨ (0 < config.maxTotal ∧ config.maxTotal.toNat ≤ p.total) ∨
        ∀ s ∈ p.slots, s.hasCapacity = false
  /-- The first slot from the cursor on that has room is served, and then is last. -/
  first : let p := new.run moves
    ∀ r q, p.reserve? = some (r, q) → ∃ front slot back,
      p.slots.rotate p.cursor = front ++ slot :: back ∧
        (∀ s ∈ front, s.hasCapacity = false) ∧ slot.hasCapacity = true ∧
        r = { slot := slot.key, host := slot.config.id } ∧
        q.slots.rotate q.cursor = back ++ front ++ [{ slot with opened := slot.opened + 1 }]
  /-- Between two reservations for one slot every slot is served that is there at the first one and
  has room at each later one, the second of the two included. -/
  fair : let p := new.run moves
    ∀ r q, p.reserve? = some (r, q) → ∀ between r' q', (q.run between).reserve? = some (r', q') →
      r'.slot = r.slot → ∀ s ∈ p.slots, s.key ≠ r.slot →
        q.RoomThroughout s.key (between ++ [.reserve]) → ∃ r'' ∈ q.grants between, r''.slot = s.key
  /-- Without a host that is removed the others take their turns as before. -/
  removal : let p := new.run moves
    ∀ s ∈ p.slots, ∃ q, p.removeHost s.config.id = .ok q ∧
      q.slots.rotate q.cursor = (p.slots.rotate p.cursor).filter (·.key ≠ s.key)
  /-- Hosts without limits are served in turn as long as they stay. -/
  unlimited : (∀ h ∈ config.hosts, h.maxConnections = 0) →
    (∀ m ∈ moves, m.changesHosts = false) → ∀ k r, (new.grants moves)[k]? = some r →
      config.hosts[k % config.hosts.length]?.map HostConfig.id = some r.host

section RoundRobin

variable {config : Config} {p q : Pool}

/-- What two runs of moves reserve, they reserve in turn. -/
lemma grants_append (p : Pool) (moves more : List Move) :
    p.grants (moves ++ more) = p.grants moves ++ (p.run moves).grants more := by
  induction moves generalizing p with
  | nil => rfl
  | cons m moves ih =>
    rw [List.cons_append, grants, grants, ih, List.append_assoc]
    rfl

/-- Who is served goes behind all others. -/
lemma before_reserved (h : p.Orderly) {r : Reservation} (e : p.reserve? = some (r, q)) {s : Slot}
    (there : s ∈ p.slots) (other : s.key ≠ r.slot) : q.Before s.key r.slot := by
  obtain ⟨slots, _, nextKey⟩ := reserve?_recounted h e
  obtain ⟨front, slot, back, whole, _, _, rfl, rotation⟩ := reserve?_rotation e
  have configured : slot ∈ p.slots := by
    rw [← mem_rotation, whole]
    exact List.mem_append_right _ List.mem_cons_self
  have known {s : Slot} (m : s ∈ p.slots) : s.key < q.nextKey := by
    rw [nextKey]
    exact h.known _ (List.mem_map_of_mem m)
  refine ⟨⟨known there, known configured⟩, fun _ _ => ?_⟩
  have ahead : s.key ∈ (back ++ front).map (·.key) := by
    rw [← mem_rotation, whole] at there
    refine List.mem_map_of_mem ?_
    rcases List.mem_append.1 there with m | m
    · exact List.mem_append_right _ m
    · rcases List.mem_cons.1 m with rfl | m
      · exact absurd rfl other
      · exact List.mem_append_left _ m
  rw [rotation, List.map_append]
  exact (List.singleton_sublist.2 ahead).append (List.Sublist.refl [slot.key])

/-- Between two reservations for one slot all those are served that have room all the time. -/
lemma served_between (h : p.Orderly) {r : Reservation} (e : p.reserve? = some (r, q))
    {between : List Move} {r' : Reservation} {q' : Pool}
    (e' : (q.run between).reserve? = some (r', q')) (again : r'.slot = r.slot) {s : Slot}
    (there : s ∈ p.slots) (other : s.key ≠ r.slot)
    (room : q.RoomThroughout s.key (between ++ [.reserve])) :
    ∃ r'' ∈ q.grants between, r''.slot = s.key := by
  by_contra waits
  have orderly : q.Orderly := h.effect (.reserved e)
  have last : (q.run between).grants [.reserve] = [r'] := by
    simp [grants, granted, e']
  have waits' : ∀ r'' ∈ q.grants (between ++ [.reserve]), r''.slot ≠ s.key := by
    intro r'' m same
    rw [grants_append, last, List.mem_append, List.mem_singleton] at m
    rcases m with m | rfl
    · exact waits ⟨r'', m, same⟩
    · exact other (same.symm.trans again)
  have never := (before_reserved h e there other).run orderly room waits'
  refine never r' ?_ again
  rw [grants_append, last]
  exact List.mem_append_right _ (List.mem_singleton_self r')

/-- From the first host of the configuration on, those without limits are served in turn. -/
lemma grants_ofConfig {new : Pool} (made : ofConfig config = .ok new)
    (unlimited : ∀ h ∈ config.hosts, h.maxConnections = 0) {moves : List Move}
    (fixed : ∀ m ∈ moves, m.changesHosts = false) {k : Nat} {r : Reservation}
    (served : (new.grants moves)[k]? = some r) :
    config.hosts[k % config.hosts.length]?.map HostConfig.id = some r.host := by
  obtain ⟨cursor, _⟩ := ofConfig_start made
  have hosts : new.slots.map (·.config) = config.hosts := ofConfig_hosts made
  have ids : new.rotation.map (·.config.id) = config.hosts.map HostConfig.id := by
    rw [← hosts, rotation, cursor, List.rotate_zero, List.map_map]
    rfl
  have unlimited' : ∀ s ∈ new.slots, s.config.maxConnections = 0 := by
    intro s m
    apply unlimited
    rw [← hosts]
    exact List.mem_map_of_mem m
  have turn := grants_unlimited unlimited' fixed served
  rw [ids, ← List.rotate_mod] at turn
  rw [← turn, List.head?_rotate, List.length_map, List.getElem?_map]
  apply Nat.mod_lt
  rw [List.length_map]
  apply List.length_pos_iff.2
  rintro none_
  simp [none_] at turn

/-- The hosts of a pool take turns, whatever happens to it, in any order. Where connections are opened
ahead, that is among the moves (`exists_run_build`). -/
theorem round_robin {new : Pool} (made : ofConfig config = .ok new) (moves : List Move) :
    RoundRobin config new moves := by
  obtain ⟨_, open_, limit⟩ := ofConfig_start made
  obtain ⟨limit', closed⟩ := run_limits new moves
  have h := (orderly_ofConfig made).run moves
  refine ⟨h.cursor, h.added, ?_, fun r q e => reserve?_rotation e, ?_, ?_, ?_⟩
  · intro p
    rw [reserve?_eq_none_iff, closed, open_, limit', limit]
    have positive : 0 < config.maxTotal.toNat ↔ 0 < config.maxTotal :=
      ⟨fun h => UInt64.lt_iff_toNat_lt.2 h, fun h => UInt64.lt_iff_toNat_lt.1 h⟩
    simp [positive]
  · intro p r q e between r' q' e' again s there other room
    exact served_between h e e' again there other room
  · intro p s there
    obtain ⟨q, e, rotation, _⟩ := exists_removeHost h there
    exact ⟨q, e, rotation⟩
  · exact fun unlimited fixed k r served => grants_ofConfig made unlimited fixed served

/-- Three hosts, the second of which takes one connection. -/
def threeHosts : Config where
  hosts := [{ host := "a", port := 1 }, { host := "b", port := 2, maxConnections := 1 },
    { host := "c", port := 3 }]

/-- The second host is full at its second turn and has room again at its third. Then it is removed,
with the cursor behind it, and added anew as the last. -/
theorem round_robin_threeHosts :
    ∃ new, ofConfig threeHosts = .ok new ∧
      let moves : List Move :=
        [.reserve, .reserve, .reserve, .reserve, .reserve, .release ⟨1, ⟨"b", 2⟩⟩, .reserve, .reserve,
          .removeHost ⟨"b", 2⟩, .addHost { host := "b", port := 2 }, .reserve, .reserve, .reserve]
      RoundRobin threeHosts new moves ∧
        (new.grants moves).map (·.host.host) = ["a", "b", "c", "a", "c", "a", "b", "c", "b", "a"] := by
  refine ⟨_, rfl, ?_⟩
  exact ⟨round_robin rfl _, by decide +kernel⟩

end RoundRobin

end Pool

end StoreClient
