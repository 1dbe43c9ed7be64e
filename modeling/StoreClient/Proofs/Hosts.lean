import Mathlib
import StoreClient.Proofs.Ledger
import StoreClient.Proofs.Rotation
import StoreClient.Proofs.Validation

/-!
# Hosts that come and go

A pool begins with the hosts of a configuration that was validated, and hosts are added and removed
while it is used (`Edit`). An edit is made in place, one field after the other, so that one which
failed halfway would leave a pool that is half changed. None does: an edit that is refused changes
nothing (`edit_eq`).

The hosts stay in the order in which they were added and never occur twice, whatever else happens to
the pool (`hosts_exact`). But while a configuration with a host that has no name is not valid, such
a host can be added to a pool (`unnamed_host_added`).
-/

namespace StoreClient

namespace Pool

/-! ### Edits in place -/

/-- Changes of a pool in place: what was changed before a fault stays changed. -/
abbrev Editing := ExceptT Fault (StateM Pool)

/-- Adds a host behind the others. -/
def insertHost (config : HostConfig) : Editing Unit := do
  if config.id ∈ (← get).hosts.map HostConfig.id then
    throw (.configuration (.alreadyConfigured config.id))
  let key := (← get).nextKey
  modify fun p => { p with nextKey := p.nextKey + 1 }
  modify fun p => { p with slots := p.slots ++ [{ key, config }] }

/-- Removes a host, sets the cursor right and drops the idle connections. -/
def eraseHost (id : HostId) : Editing Unit := do
  match (← get).slots.findIdx? (·.config.id = id) with
  | none => throw (.notFound id.host id.port)
  | some position =>
    let removed := (← get).slots[position]?.map (·.key)
    modify fun p => { p with slots := p.slots.eraseIdx position }
    modify fun p => { p with cursor := if position < p.cursor then p.cursor - 1 else p.cursor }
    modify fun p =>
      { p with cursor := if p.slots.length = 0 then 0 else p.cursor % p.slots.length }
    modify fun p =>
      { p with available := p.available.filter (fun idle => some idle.slot ≠ removed) }

/-- A change of the hosts. -/
inductive Edit where
  | add (config : HostConfig)
  | remove (id : HostId)

/-- Makes an edit. -/
def Edit.make : Edit → Editing Unit
  | .add config => insertHost config
  | .remove id => eraseHost id

/-- What comes of an edit, and the pool that it leaves. -/
def edit (p : Pool) (e : Edit) : Except Fault Unit × Pool := e.make.run.run p

/-- The move that an edit is. -/
def Edit.move : Edit → Move
  | .add config => .addHost config
  | .remove id => .removeHost id

/-- Why an edit is refused, if it is. -/
def Edit.fault? (hosts : List HostConfig) : Edit → Option Fault
  | .add config =>
    if config.id ∈ hosts.map HostConfig.id then
      some (.configuration (.alreadyConfigured config.id))
    else none
  | .remove id =>
    if id ∈ hosts.map HostConfig.id then none else some (.notFound id.host id.port)

section edit

variable {p q : Pool}

/-- A host that is known is refused; another one comes behind those there are. -/
lemma edit_add (p : Pool) (config : HostConfig) :
    p.edit (.add config) =
      if config.id ∈ p.hosts.map HostConfig.id then
        (.error (.configuration (.alreadyConfigured config.id)), p)
      else
        (.ok (), { p with
          slots := p.slots ++ [{ key := p.nextKey, config }]
          nextKey := p.nextKey + 1 }) := by
  show (if config.id ∈ p.hosts.map HostConfig.id then _ else _ : Editing Unit).run.run p = _
  split <;> rfl

/-- A host that is not known is refused; another one goes with its slot and idle connections. -/
lemma edit_remove (p : Pool) (id : HostId) :
    p.edit (.remove id) =
      match p.removeHost id with
      | .error fault => (.error fault, p)
      | .ok q => (.ok (), q) := by
  unfold removeHost
  show (match p.slots.findIdx? (·.config.id = id) with
    | none => _
    | some position => _ : Editing Unit).run.run p = _
  cases p.slots.findIdx? (·.config.id = id) with
  | none => rfl
  | some position => rfl

/-- A host is configured where it has a slot. -/
lemma mem_hosts_id {id : HostId} :
    id ∈ p.hosts.map HostConfig.id ↔ ∃ s ∈ p.slots, s.config.id = id := by
  simp [hosts]

/-- A host that is not configured is not removed. -/
lemma removeHost_of_unknown {id : HostId} (unknown : id ∉ p.hosts.map HostConfig.id) :
    p.removeHost id = .error (.notFound id.host id.port) := by
  have nowhere : p.slots.findIdx? (·.config.id = id) = none := by
    refine List.findIdx?_eq_none_iff.2 fun s m => ?_
    rw [decide_eq_false_iff_not]
    exact fun same => unknown (mem_hosts_id.2 ⟨s, m, same⟩)
  unfold removeHost
  rw [nowhere]

/-- A host that is removed leaves the others as they are, in their order. -/
lemma removeHost_of_known (h : p.Orderly) {id : HostId} (known : id ∈ p.hosts.map HostConfig.id) :
    ∃ q, p.removeHost id = .ok q ∧ q.hosts = p.hosts.filter (·.id ≠ id) := by
  obtain ⟨s, m, rfl⟩ := mem_hosts_id.1 known
  obtain ⟨q, e, _, eq⟩ := exists_removeHost h m
  refine ⟨q, e, ?_⟩
  have own (s' : Slot) (m' : s' ∈ p.slots) : s'.key = s.key ↔ s'.config.id = s.config.id := by
    constructor
    · intro same
      rw [List.inj_on_of_nodup_map h.distinct m' m same]
    · intro same
      rw [List.inj_on_of_nodup_map h.hosts m' m same]
  rw [eq, hosts, hosts, List.filter_map]
  refine congrArg _ (List.filter_congr fun s' m' => ?_)
  simp [own s' m']

/-- An edit is refused for what is wrong with it, and then changes nothing; otherwise it is its
move. -/
lemma edit_eq (h : p.Orderly) (e : Edit) :
    p.edit e =
      match e.fault? p.hosts with
      | some fault => (.error fault, p)
      | none => (.ok (), p.move e.move) := by
  cases e with
  | add config =>
    rw [edit_add]
    simp only [Edit.fault?, Edit.move, move, addHost]
    split <;> rfl
  | remove id =>
    rw [edit_remove]
    simp only [Edit.fault?, Edit.move, move]
    by_cases known : id ∈ p.hosts.map HostConfig.id
    · obtain ⟨q, removed, _⟩ := removeHost_of_known h known
      rw [if_pos known, removed]
    · rw [if_neg known, removeHost_of_unknown known]

end edit

/-! ### The hosts of a pool -/

/-- The hosts after a move, in the order in which they were added. -/
def Move.hosts (hosts : List HostConfig) : Move → List HostConfig
  | .addHost config =>
    if config.id ∈ hosts.map HostConfig.id then hosts else hosts ++ [config]
  | .removeHost id => hosts.filter (·.id ≠ id)
  | _ => hosts

section hosts

variable {p q : Pool}

/-- A reservation leaves the hosts as they are. -/
lemma reserve?_hosts {r : Reservation} (e : p.reserve? = some (r, q)) : q.hosts = p.hosts := by
  obtain ⟨_, _, position, slot, here, _, _, rfl⟩ := reserve?_eq_some e
  have config : (p.slots.map (·.config))[position]? = some slot.config := by simp [here]
  obtain ⟨inside, same⟩ := List.getElem?_eq_some_iff.1 config
  show (p.slots.set position { slot with opened := slot.opened + 1 }).map (·.config) = p.hosts
  rw [List.map_set, ← same, List.set_getElem_self]
  rfl

/-- What is not about hosts leaves the hosts as they are. -/
lemma Effect.hosts {m : Move} {granted : Option Reservation} (effect : Effect p m granted q)
    (added : ∀ config, m ≠ .addHost config) (removed : ∀ id, m ≠ .removeHost id) :
    q.hosts = p.hosts := by
  cases effect with
  | recounted key f slots _ _ =>
    unfold Pool.hosts
    rw [slots, recount_configs]
  | reserved e => exact reserve?_hosts e
  | hostAdded _ => exact absurd rfl (added _)
  | hostRemoved _ => exact absurd rfl (removed _)

/-- A move does to the hosts what it says. -/
lemma move_hosts (h : p.Orderly) (m : Move) : (p.move m).hosts = m.hosts p.hosts := by
  cases m with
  | addHost config =>
    simp only [move, addHost, Move.hosts]
    by_cases known : config.id ∈ p.hosts.map HostConfig.id
    · simp only [if_pos known]
    · simp only [if_neg known]
      exact List.map_append
  | removeHost id =>
    simp only [move, Move.hosts]
    by_cases known : id ∈ p.hosts.map HostConfig.id
    · obtain ⟨q, removed, others⟩ := removeHost_of_known h known
      rw [removed]
      exact others
    · rw [removeHost_of_unknown known]
      refine (List.filter_eq_self.2 fun host m => ?_).symm
      rw [decide_eq_true_eq]
      exact fun same => known (List.mem_map.2 ⟨host, m, same⟩)
  | reserve | consume | release | number | enlist | shelve | takeIdle | giveBack | close =>
    refine (effect_move p _).hosts ?_ ?_
    · intro config same
      cases same
    · intro id same
      cases same

/-- The hosts of a pool are those that there were, with what was added and removed since. -/
lemma run_hosts (h : p.Orderly) (moves : List Move) :
    (p.run moves).hosts = moves.foldl Move.hosts p.hosts := by
  induction moves generalizing p with
  | nil => rfl
  | cons m moves ih =>
    have rest := ih (h.move m)
    rw [move_hosts h] at rest
    exact rest

/-- Hosts come from nowhere else. -/
lemma mem_foldl_hosts {moves : List Move} {hosts : List HostConfig} {host : HostConfig}
    (m : host ∈ moves.foldl Move.hosts hosts) : host ∈ hosts ∨ .addHost host ∈ moves := by
  induction moves generalizing hosts with
  | nil => exact .inl m
  | cons move moves ih =>
    rcases ih m with there | later
    · cases move with
      | addHost config =>
        simp only [Move.hosts] at there
        split at there
        · exact .inl there
        · rcases List.mem_append.1 there with old | new
          · exact .inl old
          · rw [List.mem_singleton.1 new]
            exact .inr List.mem_cons_self
      | removeHost id => exact .inl (List.mem_of_mem_filter there)
      | reserve | consume | release | number | enlist | shelve | takeIdle | giveBack | close =>
        exact .inl there
    · exact .inr (List.mem_cons_of_mem _ later)

/-! ### Pools that were built -/

variable {config : Config}

/-- A pool is made for a valid configuration only. -/
lemma valid_of_ofConfig (made : ofConfig config = .ok p) : config.Valid := by
  rw [← Config.validate_eq_ok_iff]
  unfold ofConfig at made
  cases checked : config.validate with
  | ok u => rfl
  | error fault =>
    rw [checked] at made
    cases made

/-- Opening connections ahead leaves the hosts as they were configured. -/
lemma build_hosts {σ : Type} {dial : Nat → HostId → StateT σ Option (Except Fault Address)}
    {s s' : σ} (built : build dial config s = some (.ok p, s')) :
    config.Valid ∧ p.hosts = config.hosts := by
  obtain ⟨new, made, same | filled⟩ := build_eq_ok built
  · rw [same]
    exact ⟨valid_of_ofConfig made, ofConfig_hosts made⟩
  · refine ⟨valid_of_ofConfig made, ?_⟩
    refine prefill_induct (P := fun p => p.hosts = config.hosts) ?_ (ofConfig_hosts made) filled
    intro p p' r address h reserved
    exact (reserve?_hosts reserved).trans h

end hosts

/-- Whatever has happened to a pool that was built: its hosts are those of the configuration with
what was added and removed since, in the order in which they were added, and none of them is there
twice. One without a name was added. An edit is refused exactly where a host to be added is there
already or one to be removed is not, and then the pool is left just as it was. -/
theorem hosts_exact {σ : Type} {dial : Nat → HostId → StateT σ Option (Except Fault Address)}
    {s s' : σ} {config : Config} {pool : Pool}
    (built : build dial config s = some (.ok pool, s')) (moves : List Move) :
    let now := pool.run moves
    (now.hosts.map HostConfig.id).Nodup ∧
      now.hosts = moves.foldl Move.hosts config.hosts ∧
      (∀ host ∈ now.hosts, host.host = "" → .addHost host ∈ moves) ∧
      ∀ e : Edit, now.edit e =
        match e.fault? now.hosts with
        | some fault => (.error fault, now)
        | none => (.ok (), now.move e.move) := by
  intro now
  have start := orderly_build built
  have orderly : now.Orderly := start.run moves
  obtain ⟨valid, configured⟩ := build_hosts built
  have hosts : now.hosts = moves.foldl Move.hosts config.hosts := by
    rw [← configured]
    exact run_hosts start moves
  refine ⟨?_, hosts, fun host m unnamed => ?_, fun e => edit_eq orderly e⟩
  · rw [Pool.hosts, List.map_map]
    exact orderly.hosts
  · rw [hosts] at m
    exact (mem_foldl_hosts m).resolve_left fun old => valid.named host old unnamed

/-- A host is removed while a connection to it is lent, another one is added, and the first comes
back behind it; to remove a third is refused, as is to add the second once more with a limit. -/
theorem hosts_exact_twoHosts :
    let pool := Ledger.twoHostsPool ⟨.v4 .loopback, 1⟩
    let moves : List Move :=
      [.takeIdle, .removeHost ⟨"a", 1⟩, .addHost { host := "c", port := 3 },
        .addHost { host := "a", port := 1 }, .removeHost ⟨"d", 4⟩]
    let now := pool.run moves
    build (Ledger.reached ⟨.v4 .loopback, 1⟩) Ledger.twoHosts () = some (.ok pool, ()) ∧
      (now.hosts.map HostConfig.id).Nodup ∧
      now.hosts =
        [{ host := "b", port := 2 }, { host := "c", port := 3 }, { host := "a", port := 1 }] ∧
      now.edit (.remove ⟨"d", 4⟩) = (.error (.notFound "d" 4), now) ∧
      now.edit (.add { host := "c", port := 3, maxConnections := 7 }) =
        (.error (.configuration (.alreadyConfigured ⟨"c", 3⟩)), now) ∧
      now.stats = { available := 1, inUse := 1, pending := 0, total := 2, hosts := 3 } := by
  intro pool moves now
  have built : build (Ledger.reached ⟨.v4 .loopback, 1⟩) Ledger.twoHosts () =
      some (.ok pool, ()) := by rfl
  obtain ⟨distinct, hosts, _, edited⟩ := hosts_exact built moves
  refine ⟨built, distinct, hosts, ?_, ?_, by decide +kernel⟩
  · exact edited (.remove ⟨"d", 4⟩)
  · exact edited (.add { host := "c", port := 3, maxConnections := 7 })

/-- A pool that was built for one host takes another one without a name, though no configuration
with these hosts is valid. -/
theorem unnamed_host_added :
    let config : Config := { hosts := [{ host := "a", port := 1 }] }
    let pool : Pool :=
      { maxTotal := 16
        opening := {}
        slots := [{ key := 0, config := { host := "a", port := 1 } }]
        nextKey := 1 }
    let (result, next) := pool.edit (.add { host := "", port := 1 })
    build (Ledger.reached ⟨.v4 .loopback, 1⟩) config () = some (.ok pool, ()) ∧ result = .ok () ∧
      ¬ (∀ host ∈ next.hosts, host.host ≠ "") ∧
      { config with hosts := next.hosts }.validate = .error (.configuration (.emptyName 1)) := by
  refine ⟨by rfl, by rfl, by decide +kernel, by rfl⟩

end Pool

end StoreClient
