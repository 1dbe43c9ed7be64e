import Mathlib
import StoreClient.Proofs.Pool

/-!
# The rotation of a pool

The rotation of a pool has its slots in the order in which they take turns from now on: as they were
added, from the cursor around to the cursor. Whatever happens to a pool at once is a move (`Move`),
and `effect_move` says once what a move does to the slots and to the cursor: it changes the count of
one slot, or it serves, adds or removes one.

Who is served comes last (`reserve?_rotation`), a new slot comes in where the list begins anew
(`addHost_rotation`), and a slot that is removed only drops out (`removeHost_rotation`). The slots
stay in their order under every move (`Orderly.run`).
-/

namespace StoreClient

namespace Pool

/-! ### Rotated lists -/

section lists

variable {α : Type} {l : List α} {cursor : Nat}

/-- To replace an entry counted from the cursor is to replace it in the rotation. -/
lemma rotate_set {i : Nat} (inside : i < l.length) (cursor : Nat) (a : α) :
    (l.set ((cursor + i) % l.length) a).rotate cursor = (l.rotate cursor).set i a := by
  apply List.ext_getElem?
  intro j
  by_cases h : j < l.length
  · have same : (cursor + i) % l.length = (j + cursor) % l.length ↔ i = j := by
      rw [Nat.add_comm cursor i]
      constructor
      · intro e
        have e : i % l.length = j % l.length := Nat.ModEq.add_right_cancel' cursor e
        rwa [Nat.mod_eq_of_lt inside, Nat.mod_eq_of_lt h] at e
      · rintro rfl
        rfl
    rw [List.getElem?_rotate (by simpa using h), List.length_set, List.getElem?_set,
      List.getElem?_set, List.getElem?_rotate h, List.length_rotate, if_pos inside,
      if_pos (Nat.mod_lt _ (Nat.zero_lt_of_lt h))]
    simp only [same]
  · rw [List.getElem?_eq_none (by simpa using h), List.getElem?_eq_none (by simpa using h)]

/-- What is left of a rotation is a rotation of what is left. -/
lemma filter_rotate (inside : cursor ≤ l.length) (f : α → Bool) :
    (l.rotate cursor).filter f =
      (l.filter f).rotate ((l.take cursor).filter f).length := by
  have whole : l.filter f = (l.take cursor).filter f ++ (l.drop cursor).filter f := by
    rw [← List.filter_append, List.take_append_drop]
  rw [List.rotate_eq_drop_append_take inside, whole, List.rotate_append_length_eq,
    List.filter_append]

end lists

/-! ### The rotation of a pool -/

/-- The slots in the order in which they take turns from now on. -/
def rotation (p : Pool) : List Slot := p.slots.rotate p.cursor

section rotation

variable {p q : Pool}

/-- All slots take turns. -/
lemma mem_rotation {s : Slot} : s ∈ p.rotation ↔ s ∈ p.slots := List.mem_rotate

/-- The turn that is found is the first in the rotation that has room. -/
lemma turns_find? {position : Nat} {slot : Slot}
    (found : p.turns.find? (·.2.hasCapacity) = some (position, slot)) :
    ∃ i, p.rotation[i]? = some slot ∧ position = (p.cursor + i) % p.slots.length ∧
      slot.hasCapacity = true ∧ ∀ s ∈ p.rotation.take i, s.hasCapacity = false := by
  have turn {i : Nat} (inside : i < p.slots.length) :
      p.slots[(p.cursor + i) % p.slots.length]? = p.rotation[i]? := by
    rw [Nat.add_comm, rotation, List.getElem?_rotate inside]
  simp only [turns, List.find?_filterMap, Option.bind_eq_some_iff] at found
  obtain ⟨i, first, taken⟩ := found
  obtain ⟨room, inside, earlier⟩ := List.find?_range_eq_some.1 first
  rw [List.mem_range] at inside
  rw [turn inside] at taken room
  obtain ⟨slot', here, e⟩ := Option.map_eq_some_iff.1 taken
  obtain ⟨rfl, rfl⟩ := Prod.mk.inj e
  refine ⟨i, here, rfl, by simpa [here] using room, fun s m => ?_⟩
  obtain ⟨j, before, rfl⟩ := List.mem_take_iff_getElem.1 m
  have none_ := earlier j (by omega)
  rw [turn (by omega), List.getElem?_eq_getElem (by omega)] at none_
  simpa using none_

/-- Where the slot at a place of the rotation is set and the cursor goes behind it, the slot comes
last. -/
lemma rotation_reserved {i : Nat} (inside : i < p.rotation.length) (slot : Slot) :
    (p.slots.set ((p.cursor + i) % p.slots.length) slot).rotate
        (((p.cursor + i) % p.slots.length + 1) % p.slots.length) =
      p.rotation.drop (i + 1) ++ p.rotation.take i ++ [slot] := by
  have around (l : List Slot) (same : l.length = p.slots.length) :
      l.rotate (((p.cursor + i) % p.slots.length + 1) % p.slots.length) =
        (l.rotate p.cursor).rotate (i + 1) := by
    rw [← same, Nat.mod_add_mod, List.rotate_mod, List.rotate_rotate, Nat.add_assoc]
  have front : (p.rotation.take i ++ [slot]).length = i + 1 := by
    rw [List.length_append, List.length_take_of_le inside.le, List.length_singleton]
  have set : p.rotation.set i slot =
      (p.rotation.take i ++ [slot]) ++ p.rotation.drop (i + 1) := by
    rw [List.set_eq_take_append_cons_drop, if_pos inside, List.append_assoc,
      List.singleton_append]
  rw [around _ List.length_set, rotate_set (by simpa [rotation] using inside), ← rotation, set,
    ← front, List.rotate_append_length_eq, List.append_assoc]

/-- Room is reserved for the first slot of the rotation that has any, which then comes last. -/
lemma reserve?_rotation {r : Reservation} (e : p.reserve? = some (r, q)) :
    ∃ front slot back, p.rotation = front ++ slot :: back ∧
      (∀ s ∈ front, s.hasCapacity = false) ∧ slot.hasCapacity = true ∧
      r = { slot := slot.key, host := slot.config.id } ∧
      q.rotation = back ++ front ++ [{ slot with opened := slot.opened + 1 }] := by
  unfold reserve? at e
  split at e
  · cases e
  · split at e
    · cases e
    · split at e
      · cases e
      · rename_i position slot found
        obtain ⟨i, here, rfl, room, earlier⟩ := turns_find? found
        cases e
        obtain ⟨inside, rfl⟩ := List.getElem?_eq_some_iff.1 here
        have whole : p.rotation.take i ++ p.rotation[i] :: p.rotation.drop (i + 1) =
            p.rotation := by
          rw [← List.drop_eq_getElem_cons, List.take_append_drop]
        exact ⟨_, _, _, whole.symm, earlier, room, rfl, rotation_reserved inside _⟩

end rotation

/-! ### What happens to a pool -/

/-- Something that happens to a pool at once. -/
inductive Move where
  | reserve
  | consume
  | release (reservation : Reservation)
  | number
  | enlist (pooled : Pooled)
  | shelve (pooled : Pooled)
  | takeIdle
  | giveBack (pooled : Pooled)
  | addHost (config : HostConfig)
  | removeHost (id : HostId)
  | close

/-- The pool after a move. A move that is refused changes nothing. -/
def move (p : Pool) : Move → Pool
  | .reserve =>
    match p.reserve? with
    | some (_, q) => q
    | none => p
  | .consume => p.consume
  | .release reservation => p.release reservation
  | .number => p.number
  | .enlist pooled => p.enlist pooled
  | .shelve pooled => p.shelve pooled
  | .takeIdle =>
    match p.takeIdle with
    | .ok (some (_, q)) => q
    | _ => p
  | .giveBack pooled => p.giveBack pooled
  | .addHost config =>
    match p.addHost config with
    | .ok q => q
    | .error _ => p
  | .removeHost id =>
    match p.removeHost id with
    | .ok q => q
    | .error _ => p
  | .close => p.close

/-- The pool after several moves. -/
def run (p : Pool) (moves : List Move) : Pool := moves.foldl move p

/-- Moves are made in turn. -/
lemma run_append (p : Pool) (moves more : List Move) :
    p.run (moves ++ more) = (p.run moves).run more := List.foldl_append

/-- What a move reserves. -/
def granted (p : Pool) : Move → Option Reservation
  | .reserve => p.reserve?.map Prod.fst
  | _ => none

/-- What several moves reserve, one after the other. -/
def grants (p : Pool) : List Move → List Reservation
  | [] => []
  | m :: moves => (p.granted m).toList ++ (p.move m).grants moves

/-- What a move does to the slots and to whose turn it is. -/
inductive Effect (p : Pool) : Move → Option Reservation → Pool → Prop where
  | recounted {m : Move} {q : Pool} (key : Nat) (f : Nat → Nat) :
    q.slots = recount p.slots key f → q.cursor = p.cursor → q.nextKey = p.nextKey →
    Effect p m none q
  | reserved {r : Reservation} {q : Pool} :
    p.reserve? = some (r, q) → Effect p .reserve (some r) q
  | hostAdded {config : HostConfig} {q : Pool} :
    p.addHost config = .ok q → Effect p (.addHost config) none q
  | hostRemoved {id : HostId} {q : Pool} :
    p.removeHost id = .ok q → Effect p (.removeHost id) none q

section moves

variable {p q : Pool}

/-- To count a slot as before changes nothing. -/
lemma recount_id (slots : List Slot) (key : Nat) : recount slots key id = slots := by
  unfold recount
  simp

/-- A move may leave the slots and the cursor alone. -/
lemma Effect.same {m : Move} (slots : q.slots = p.slots) (cursor : q.cursor = p.cursor)
    (nextKey : q.nextKey = p.nextKey) : Effect p m none q :=
  .recounted 0 id (slots.trans (recount_id _ _).symm) cursor nextKey

/-- Every move does one of these. -/
lemma effect_move (p : Pool) (m : Move) : Effect p m (p.granted m) (p.move m) := by
  cases m with
  | reserve =>
    cases e : p.reserve? with
    | none =>
      simp only [granted, move, e, Option.map_none]
      exact .same rfl rfl rfl
    | some found =>
      simp only [granted, move, e, Option.map_some]
      exact .reserved e
  | consume => exact .same rfl rfl rfl
  | release reservation => exact .recounted reservation.slot (· - 1) rfl rfl rfl
  | number => exact .same rfl rfl rfl
  | enlist pooled => exact .same rfl rfl rfl
  | shelve pooled => exact .same rfl rfl rfl
  | takeIdle =>
    simp only [granted, move]
    split
    · rename_i taken
      obtain ⟨_, _, _, rfl⟩ := takeIdle_eq_some_iff.1 taken
      exact .same rfl rfl rfl
    · exact .same rfl rfl rfl
  | giveBack pooled =>
    simp only [granted, move, giveBack]
    split
    · exact .same rfl rfl rfl
    · exact .recounted pooled.slot (· - 1) rfl rfl rfl
  | addHost config =>
    simp only [granted, move]
    cases e : p.addHost config with
    | ok q => exact .hostAdded e
    | error fault => exact .same rfl rfl rfl
  | removeHost id =>
    simp only [granted, move]
    cases e : p.removeHost id with
    | ok q => exact .hostRemoved e
    | error fault => exact .same rfl rfl rfl
  | close => exact .same rfl rfl rfl

end moves

/-! ### The order of the slots -/

/-- The slots are there in the order in which they were added, each for a host of its own, and the
cursor is at one of them if there are any. -/
structure Orderly (p : Pool) : Prop where
  cursor : p.cursor < p.slots.length ∨ p.slots = [] ∧ p.cursor = 0
  added : (p.slots.map (·.key)).Pairwise (· < ·)
  known : ∀ key ∈ p.slots.map (·.key), key < p.nextKey
  hosts : (p.slots.map (·.config.id)).Nodup

section Orderly

variable {p q : Pool}

/-- No two slots have the same key. -/
lemma Orderly.distinct (h : p.Orderly) : (p.slots.map (·.key)).Nodup := h.added.imp Nat.ne_of_lt

/-- The cursor is not beyond the slots. -/
lemma Orderly.inside (h : p.Orderly) : p.cursor ≤ p.slots.length := by
  rcases h.cursor with inside | ⟨_, zero⟩
  · exact inside.le
  · rw [zero]
    exact Nat.zero_le _

/-- The slots keep their configurations when one of them is counted anew. -/
lemma recount_configs (slots : List Slot) (key : Nat) (f : Nat → Nat) :
    (recount slots key f).map (·.config) = slots.map (·.config) := by
  unfold recount
  rw [List.map_map]
  refine List.map_congr_left fun s _ => ?_
  show (if s.key = key then { s with opened := f s.opened } else s : Slot).config = s.config
  split <;> rfl

/-- The slots keep their hosts when one of them is counted anew. -/
lemma recount_hosts (slots : List Slot) (key : Nat) (f : Nat → Nat) :
    (recount slots key f).map (·.config.id) = slots.map (·.config.id) := by
  have same := congrArg (List.map HostConfig.id) (recount_configs slots key f)
  rwa [List.map_map, List.map_map] at same

/-- The slots stay in order when one of them is counted anew. -/
lemma Orderly.recounted (h : p.Orderly) {key : Nat} {f : Nat → Nat}
    (slots : q.slots = recount p.slots key f)
    (cursor : q.cursor < q.slots.length ∨ q.cursor = p.cursor)
    (nextKey : q.nextKey = p.nextKey) : q.Orderly := by
  have length : q.slots.length = p.slots.length := by
    rw [slots]
    exact List.length_map _
  refine ⟨?_, ?_, ?_, ?_⟩
  · rcases cursor with inside | same
    · exact .inl inside
    · rw [same, length, ← List.length_eq_zero_iff, length, List.length_eq_zero_iff]
      exact h.cursor
  · rw [slots, recount_keys]
    exact h.added
  · rw [slots, recount_keys, nextKey]
    exact h.known
  · rw [slots, recount_hosts]
    exact h.hosts

/-- A reservation is counted for its slot, and the cursor stays at a slot. -/
lemma reserve?_recounted (h : p.Orderly) {r : Reservation} (e : p.reserve? = some (r, q)) :
    q.slots = recount p.slots r.slot (· + 1) ∧ q.cursor < q.slots.length ∧
      q.nextKey = p.nextKey := by
  obtain ⟨_, _, position, slot, here, _, rfl, rfl⟩ := reserve?_eq_some e
  obtain ⟨inside, _⟩ := List.getElem?_eq_some_iff.1 here
  refine ⟨set_eq_recount h.distinct here (· + 1), ?_, rfl⟩
  show (position + 1) % p.slots.length < _
  rw [List.length_set]
  exact Nat.mod_lt _ (Nat.zero_lt_of_lt inside)

/-- The slots stay in order when a host is added. -/
lemma Orderly.addHost (h : p.Orderly) {config : HostConfig} (e : p.addHost config = .ok q) :
    q.Orderly := by
  obtain ⟨fresh, rfl⟩ := addHost_eq_ok e
  refine ⟨.inl ?_, ?_, ?_, ?_⟩
  · rw [List.length_append]
    exact Nat.lt_succ_of_le h.inside
  · rw [List.map_append, List.pairwise_append]
    refine ⟨h.added, List.pairwise_singleton _ _, fun key m next m' => ?_⟩
    rw [List.map_singleton, List.mem_singleton] at m'
    rw [m']
    exact h.known key m
  · intro key m
    rw [List.map_append, List.map_singleton, List.mem_append, List.mem_singleton] at m
    rcases m with old | rfl
    · exact Nat.lt_succ_of_lt (h.known key old)
    · exact Nat.lt_succ_self _
  · rw [List.map_append]
    exact List.Nodup.append h.hosts (List.nodup_singleton _) (by simpa using fresh)

/-- A new slot comes in where the list begins anew. -/
lemma addHost_rotation (h : p.Orderly) {config : HostConfig} (e : p.addHost config = .ok q) :
    ∃ front back, p.rotation = front ++ back ∧
      q.rotation = front ++ { key := p.nextKey, config } :: back := by
  obtain ⟨_, rfl⟩ := addHost_eq_ok e
  refine ⟨_, _, List.rotate_eq_drop_append_take h.inside, ?_⟩
  unfold rotation
  dsimp only
  rw [List.rotate_eq_drop_append_take (by simpa using Nat.le_succ_of_le h.inside),
    List.drop_append_of_le_length h.inside, List.take_append_of_le_length h.inside,
    List.append_assoc, List.singleton_append]

/-- How many slots before the cursor are left without the slot at a position. -/
lemma length_filter_take {slots : List Slot} (distinct : (slots.map (·.key)).Nodup)
    {position cursor : Nat} (inside : cursor ≤ slots.length) {slot : Slot}
    (here : slots[position]? = some slot) :
    ((slots.take cursor).filter (·.key ≠ slot.key)).length =
      if position < cursor then cursor - 1 else cursor := by
  have distinct' : ((slots.take cursor).map (·.key)).Nodup :=
    distinct.sublist ((List.take_sublist _ _).map _)
  by_cases before : position < cursor
  · have here' : (slots.take cursor)[position]? = some slot := by
      rwa [List.getElem?_take_of_lt before]
    have length := List.length_take_of_le inside
    rw [← eraseIdx_eq_filter distinct' here', List.length_eraseIdx_of_lt (by omega), length,
      if_pos before]
  · -- The slot comes behind the cursor, so none before it has its key.
    have later : slot ∈ slots.drop cursor := by
      refine List.mem_of_getElem? (i := position - cursor) ?_
      rwa [List.getElem?_drop, Nat.add_sub_cancel' (Nat.le_of_not_lt before)]
    have whole := distinct
    rw [← List.take_append_drop cursor slots, List.map_append, List.nodup_append] at whole
    have all : (slots.take cursor).filter (·.key ≠ slot.key) = slots.take cursor := by
      refine List.filter_eq_self.2 fun s m => ?_
      have other := whole.2.2 s.key (List.mem_map_of_mem m) slot.key (List.mem_map_of_mem later)
      simpa using other
    rw [all, if_neg before, List.length_take_of_le inside]

/-- A slot that is removed drops out of the rotation, and so do its idle connections. -/
lemma removeHost_rotation (h : p.Orderly) {id : HostId} (e : p.removeHost id = .ok q) :
    ∃ s ∈ p.slots, s.config.id = id ∧ q.rotation = p.rotation.filter (·.key ≠ s.key) ∧
      (q.cursor < q.slots.length ∨ q.slots = [] ∧ q.cursor = 0) ∧
      q = { p with
        slots := p.slots.filter (·.key ≠ s.key)
        cursor := q.cursor
        available := p.available.filter (·.slot ≠ s.key) } := by
  obtain ⟨position, s, here, same, rfl⟩ := removeHost_eq_ok e
  rw [eraseIdx_eq_filter h.distinct here]
  refine ⟨s, List.mem_of_getElem? here, same, ?_, ?_, rfl⟩
  · unfold rotation cursorAfterRemoval
    dsimp only
    rw [filter_rotate h.inside, length_filter_take h.distinct h.inside here]
    split
    · rename_i none_
      rw [List.length_eq_zero_iff] at none_
      rw [none_, List.rotate_nil, List.rotate_nil]
    · exact List.rotate_mod _ _
  · unfold cursorAfterRemoval
    dsimp only
    split
    · rename_i none_
      exact .inr ⟨List.length_eq_zero_iff.1 none_, rfl⟩
    · rename_i some_
      exact .inl (Nat.mod_lt _ (Nat.pos_of_ne_zero some_))

/-- The host of a slot can be removed, and then that slot is gone. -/
lemma exists_removeHost (h : p.Orderly) {s : Slot} (m : s ∈ p.slots) :
    ∃ q, p.removeHost s.config.id = .ok q ∧ q.rotation = p.rotation.filter (·.key ≠ s.key) ∧
      q = { p with
        slots := p.slots.filter (·.key ≠ s.key)
        cursor := q.cursor
        available := p.available.filter (·.slot ≠ s.key) } := by
  cases e : p.removeHost s.config.id with
  | error fault =>
    unfold Pool.removeHost at e
    split at e
    · rename_i none_
      have other := List.findIdx?_eq_none_iff.1 none_ s m
      simp at other
    · cases e
  | ok q =>
    obtain ⟨s', m', same, rotation, _, eq⟩ := removeHost_rotation h e
    obtain rfl : s' = s := List.inj_on_of_nodup_map h.hosts m' m same
    exact ⟨q, rfl, rotation, eq⟩

/-- The slots stay in order when a host is removed. -/
lemma Orderly.removeHost (h : p.Orderly) {id : HostId} (e : p.removeHost id = .ok q) :
    q.Orderly := by
  obtain ⟨s, _, _, _, cursor, eq⟩ := removeHost_rotation h e
  have fewer : q.slots.Sublist p.slots := by
    rw [eq]
    exact List.filter_sublist
  have nextKey : q.nextKey = p.nextKey := by rw [eq]
  refine ⟨cursor, h.added.sublist (fewer.map _), fun key m => ?_, h.hosts.sublist (fewer.map _)⟩
  rw [nextKey]
  exact h.known key ((fewer.map _).subset m)

/-- The slots stay in order, whatever a move does. -/
lemma Orderly.effect (h : p.Orderly) {m : Move} {granted : Option Reservation}
    (effect : Effect p m granted q) : q.Orderly := by
  cases effect with
  | recounted key f slots cursor nextKey => exact h.recounted slots (.inr cursor) nextKey
  | reserved e =>
    obtain ⟨slots, cursor, nextKey⟩ := reserve?_recounted h e
    exact h.recounted slots (.inl cursor) nextKey
  | hostAdded e => exact h.addHost e
  | hostRemoved e => exact h.removeHost e

/-- The slots stay in order in a move. -/
lemma Orderly.move (h : p.Orderly) (m : Move) : (p.move m).Orderly := h.effect (effect_move p m)

/-- The slots stay in order, whatever happens. -/
lemma Orderly.run (h : p.Orderly) (moves : List Move) : (p.run moves).Orderly := by
  induction moves generalizing p with
  | nil => exact h
  | cons m moves ih => exact ih (h.move m)

end Orderly

/-! ### New pools -/

section new

variable {config : Config} {p q : Pool}

/-- The slots of a new pool are in order. -/
lemma orderly_empty (limit : Nat) (opening : Opening) :
    Orderly { maxTotal := limit, opening } :=
  ⟨.inr ⟨rfl, rfl⟩, .nil, nofun, .nil⟩

/-- The slots of a pool for a configuration are in order. -/
lemma orderly_ofConfig (made : ofConfig config = .ok p) : p.Orderly :=
  ofConfig_induct (orderly_empty _) (fun h added => h.addHost added) made

/-- Hosts are added in turn behind those that there are. -/
lemma addHosts_hosts {configs : List HostConfig} (e : p.addHosts configs = .ok q) :
    q.hosts = p.hosts ++ configs := by
  unfold Pool.addHosts at e
  induction configs generalizing p with
  | nil =>
    cases e
    exact (List.append_nil _).symm
  | cons config configs ih =>
    rw [List.foldlM_cons] at e
    cases added : p.addHost config with
    | error fault =>
      rw [added] at e
      cases e
    | ok p1 =>
      rw [added] at e
      obtain ⟨_, rfl⟩ := addHost_eq_ok added
      rw [ih e]
      simp [Pool.hosts]

/-- The hosts of a new pool are those of its configuration. -/
lemma ofConfig_hosts (made : ofConfig config = .ok p) : p.hosts = config.hosts := by
  obtain ⟨opening, added⟩ := ofConfig_eq_ok made
  exact addHosts_hosts added

/-- A new pool is open and begins with its first host. -/
lemma ofConfig_start (made : ofConfig config = .ok p) :
    p.cursor = 0 ∧ p.closed = false ∧ p.maxTotal = config.maxTotal.toNat := by
  refine ofConfig_induct (P := fun p => p.cursor = 0 ∧ p.closed = false ∧
    p.maxTotal = config.maxTotal.toNat) (fun _ => ⟨rfl, rfl, rfl⟩) (fun h added => ?_) made
  obtain ⟨_, rfl⟩ := addHost_eq_ok added
  exact h

/-- A pool that was built is a new one after some moves: connections may have been opened ahead. -/
lemma exists_run_build {σ : Type} {dial : Nat → HostId → StateT σ Option (Except Fault Address)}
    {s s' : σ} (e : build dial config s = some (.ok p, s')) :
    ∃ new moves, ofConfig config = .ok new ∧ p = new.run moves := by
  obtain ⟨new, made, same | filled⟩ := build_eq_ok e
  · exact ⟨new, [], made, same⟩
  · suffices opened : ∃ moves, p = new.run moves by
      obtain ⟨moves, same⟩ := opened
      exact ⟨new, moves, made, same⟩
    refine prefill_induct (P := fun p => ∃ moves, p = new.run moves) ?_ ⟨[], rfl⟩ filled
    rintro p p' r address ⟨moves, rfl⟩ reserved
    refine ⟨moves ++ [.reserve, .number, .consume, .shelve (p'.connection r address)], ?_⟩
    rw [run_append]
    simp only [run, List.foldl, move] at reserved ⊢
    rw [reserved]

/-- The slots of a pool are in order when it is built. -/
lemma orderly_build {σ : Type} {dial : Nat → HostId → StateT σ Option (Except Fault Address)}
    {s s' : σ} (e : build dial config s = some (.ok p, s')) : p.Orderly := by
  obtain ⟨new, moves, made, rfl⟩ := exists_run_build e
  exact (orderly_ofConfig made).run moves

end new

end Pool

end StoreClient
