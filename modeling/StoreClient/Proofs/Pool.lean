import Mathlib
import StoreClient.Pool
import StoreClient.Proofs.Exchange

/-!
# The books of a pool

A pool counts: the connections that it has opened for each slot, those that are being opened, and
those that are lent. `Balanced` says that the counts of the slots agree with the connections that
there are, and `Books` that all counts do, for the lent connections `guards` and the slots `reserved`
of the connections that are being opened.

There is one lemma for each thing that happens to a pool: it says what it does to the books. A
connection that comes back need not be what it was when it was lent, except for its number.
-/

namespace StoreClient

namespace Pool

/-! ### Slots -/

/-- The slots with the count of one of them changed. -/
def recount (slots : List Slot) (key : Nat) (f : Nat → Nat) : List Slot :=
  slots.map fun s => if s.key = key then { s with opened := f s.opened } else s

/-- The slots keep their keys when one of them is counted anew. -/
@[simp] lemma recount_keys (slots : List Slot) (key : Nat) (f : Nat → Nat) :
    (recount slots key f).map (·.key) = slots.map (·.key) := by
  unfold recount
  rw [List.map_map]
  refine List.map_congr_left fun s _ => ?_
  show (if s.key = key then { s with opened := f s.opened } else s : Slot).key = s.key
  split <;> rfl

/-- What holds of the slots after a count was changed. -/
lemma forall_mem_recount {slots : List Slot} {key : Nat} {f : Nat → Nat} {P : Slot → Prop}
    (own : ∀ s ∈ slots, s.key = key → P { s with opened := f s.opened })
    (others : ∀ s ∈ slots, s.key ≠ key → P s) : ∀ s ∈ recount slots key f, P s := by
  intro s m
  obtain ⟨s', m', rfl⟩ := List.mem_map.1 m
  split
  · rename_i same
    exact own s' m' same
  · rename_i other
    exact others s' m' other

/-- Changing the count of a slot that is gone changes nothing. -/
lemma recount_of_not_mem {slots : List Slot} {key : Nat} (gone : key ∉ slots.map (·.key))
    (f : Nat → Nat) : recount slots key f = slots := by
  unfold recount
  refine (List.map_congr_left fun s m => ?_).trans (List.map_id slots)
  have other : s.key ≠ key := by
    rintro rfl
    exact gone (List.mem_map_of_mem m)
  exact if_neg other

section position

variable {slots : List Slot} {position : Nat} {slot : Slot}

/-- A slot that is fresh is none of those that are there. -/
lemma key_ne_of_getElem? {s : Slot} (fresh : s.key ∉ slots.map (·.key))
    (here : slots[position]? = some slot) : s.key ≠ slot.key := by
  intro same
  apply fresh
  rw [same]
  exact List.mem_map_of_mem (List.mem_of_getElem? here)

/-- Where keys are distinct, the slot at a position is the slot of its key. -/
lemma set_eq_recount (distinct : (slots.map (·.key)).Nodup) (here : slots[position]? = some slot)
    (f : Nat → Nat) :
    slots.set position { slot with opened := f slot.opened } = recount slots slot.key f := by
  induction slots generalizing position with
  | nil => simp at here
  | cons s slots ih =>
    obtain ⟨fresh, distinct⟩ := List.nodup_cons.1 distinct
    cases position with
    | zero =>
      obtain rfl : s = slot := by simpa using here
      have rest := recount_of_not_mem fresh f
      unfold recount at rest ⊢
      rw [List.set_cons_zero, List.map_cons, rest, if_pos rfl]
    | succ position =>
      have here' : slots[position]? = some slot := by simpa using here
      have rest := ih distinct here'
      unfold recount at rest ⊢
      rw [List.set_cons_succ, List.map_cons, rest, if_neg (key_ne_of_getElem? fresh here')]

/-- Where keys are distinct, the slots besides the one at a position are those of other keys. -/
lemma eraseIdx_eq_filter (distinct : (slots.map (·.key)).Nodup)
    (here : slots[position]? = some slot) :
    slots.eraseIdx position = slots.filter (·.key ≠ slot.key) := by
  induction slots generalizing position with
  | nil => simp at here
  | cons s slots ih =>
    obtain ⟨fresh, distinct⟩ := List.nodup_cons.1 distinct
    cases position with
    | zero =>
      obtain rfl : s = slot := by simpa using here
      have rest : slots.filter (·.key ≠ s.key) = slots := by
        refine List.filter_eq_self.2 fun s' m => ?_
        have other : s'.key ≠ s.key := by
          intro same
          exact fresh (List.mem_map.2 ⟨s', m, same⟩)
        simpa using other
      rw [List.eraseIdx_cons_zero, List.filter_cons_of_neg (by simp), rest]
    | succ position =>
      have here' : slots[position]? = some slot := by simpa using here
      have other := key_ne_of_getElem? fresh here'
      rw [List.eraseIdx_cons_succ, ih distinct here', List.filter_cons_of_pos (by simpa using other)]

end position

/-- The slots agree with the connections of the pool, open or being opened; `entries` has the key of
the slot of each. -/
structure Balanced (slots : List Slot) (nextKey : Nat) (closed : Bool) (entries : List Nat) :
    Prop where
  distinct : (slots.map (·.key)).Nodup
  known : ∀ key ∈ slots.map (·.key) ++ entries, key < nextKey
  covered : ∀ s ∈ slots, entries.count s.key ≤ s.opened
  even : closed = false → ∀ s ∈ slots, s.opened = entries.count s.key
  limited : ∀ s ∈ slots, s.config.maxConnections = 0 ∨ s.opened ≤ s.config.maxConnections.toNat

section Balanced

variable {slots : List Slot} {nextKey key : Nat} {closed : Bool} {entries entries' : List Nat}

/-- The slots agree with the same connections in any order. -/
lemma Balanced.perm (h : Balanced slots nextKey closed entries) (perm : entries.Perm entries') :
    Balanced slots nextKey closed entries' := by
  refine ⟨h.distinct, ?_, ?_, ?_, h.limited⟩
  · intro key m
    apply h.known key
    simpa [perm.mem_iff] using m
  · intro s m
    rw [← perm.count_eq]
    exact h.covered s m
  · intro open_ s m
    rw [← perm.count_eq]
    exact h.even open_ s m

/-- A slot that has room takes one connection more. -/
lemma Balanced.reserve (h : Balanced slots nextKey closed entries) {position : Nat} {slot : Slot}
    (here : slots[position]? = some slot) (room : slot.hasCapacity = true) :
    Balanced (slots.set position { slot with opened := slot.opened + 1 }) nextKey closed
      (slot.key :: entries) := by
  have mem : slot ∈ slots := List.mem_of_getElem? here
  have same {s : Slot} (m : s ∈ slots) (k : s.key = slot.key) : s = slot :=
    List.inj_on_of_nodup_map h.distinct m mem k
  rw [set_eq_recount h.distinct here (· + 1)]
  refine ⟨by simpa using h.distinct, ?_, ?_, ?_, ?_⟩
  · intro key m
    apply h.known key
    simp only [recount_keys, List.mem_append, List.mem_cons] at m ⊢
    rcases m with m | rfl | m
    · exact .inl m
    · exact .inl (List.mem_map_of_mem mem)
    · exact .inr m
  · refine forall_mem_recount (fun s m k => ?_) (fun s m k => ?_)
    · rw [k, List.count_cons_self, ← k]
      exact Nat.succ_le_succ (h.covered s m)
    · rw [List.count_cons_of_ne (Ne.symm k)]
      exact h.covered s m
  · intro open_
    refine forall_mem_recount (fun s m k => ?_) (fun s m k => ?_)
    · rw [k, List.count_cons_self, ← k, h.even open_ s m]
    · rw [List.count_cons_of_ne (Ne.symm k)]
      exact h.even open_ s m
  · refine forall_mem_recount (fun s m k => ?_) (fun s m _ => h.limited s m)
    obtain rfl := same m k
    simpa [Slot.hasCapacity, Nat.succ_le_iff] using room

/-- A slot loses a connection, unless it is gone. -/
lemma Balanced.forget (h : Balanced slots nextKey closed (key :: entries)) :
    Balanced (recount slots key (· - 1)) nextKey closed entries := by
  refine ⟨by simpa using h.distinct, ?_, ?_, ?_, ?_⟩
  · intro k m
    apply h.known k
    simp only [recount_keys, List.mem_append, List.mem_cons] at m ⊢
    tauto
  · refine forall_mem_recount (fun s m k => ?_) (fun s m k => ?_)
    · have covered := h.covered s m
      rw [k, List.count_cons_self] at covered
      show entries.count s.key ≤ s.opened - 1
      rw [k]
      omega
    · have covered := h.covered s m
      rwa [List.count_cons_of_ne (Ne.symm k)] at covered
  · intro open_
    refine forall_mem_recount (fun s m k => ?_) (fun s m k => ?_)
    · have even := h.even open_ s m
      rw [k, List.count_cons_self] at even
      show s.opened - 1 = entries.count s.key
      rw [k]
      omega
    · have even := h.even open_ s m
      rwa [List.count_cons_of_ne (Ne.symm k)] at even
  · refine forall_mem_recount (fun s m _ => ?_) (fun s m _ => h.limited s m)
    exact (h.limited s m).imp_right (Nat.sub_le_of_le_add ∘ Nat.le_add_right_of_le)

/-- A new slot has no connections. -/
lemma Balanced.addSlot (h : Balanced slots nextKey closed entries) (config : HostConfig) :
    Balanced (slots ++ [{ key := nextKey, config }]) (nextKey + 1) closed entries := by
  have fresh : nextKey ∉ slots.map (·.key) ++ entries := fun m =>
    absurd (h.known nextKey m) (lt_irrefl _)
  rw [List.mem_append, not_or] at fresh
  have none_ : entries.count nextKey = 0 := List.count_eq_zero_of_not_mem fresh.2
  refine ⟨?_, ?_, ?_, ?_, ?_⟩
  · rw [List.map_append]
    apply List.Nodup.append h.distinct (by simp)
    simpa using fresh.1
  · intro key m
    have known := h.known key
    simp only [List.map_append, List.map_cons, List.map_nil, List.mem_append, List.mem_cons,
      List.not_mem_nil, or_false] at m known
    rcases m with (m | rfl) | m
    · exact Nat.lt_succ_of_lt (known (.inl m))
    · exact Nat.lt_succ_self key
    · exact Nat.lt_succ_of_lt (known (.inr m))
  · intro s m
    rcases List.mem_append.1 m with old | new
    · exact h.covered s old
    · cases List.mem_singleton.1 new
      exact none_.le
  · intro open_ s m
    rcases List.mem_append.1 m with old | new
    · exact h.even open_ s old
    · cases List.mem_singleton.1 new
      exact none_.symm
  · intro s m
    rcases List.mem_append.1 m with old | new
    · exact h.limited s old
    · cases List.mem_singleton.1 new
      exact .inr (Nat.zero_le _)

/-- A slot may go, and some of its connections with it. -/
lemma Balanced.removeSlot (h : Balanced slots nextKey closed entries)
    (sub : entries'.Sublist entries) (kept : ∀ k ≠ key, entries'.count k = entries.count k) :
    Balanced (slots.filter (·.key ≠ key)) nextKey closed entries' := by
  have old {s : Slot} (m : s ∈ slots.filter (·.key ≠ key)) : s ∈ slots ∧ s.key ≠ key := by
    simpa using m
  have fewer : (slots.filter (·.key ≠ key)).Sublist slots := List.filter_sublist
  refine ⟨h.distinct.sublist (fewer.map _), ?_, ?_, ?_, fun s m => h.limited s (old m).1⟩
  · exact fun k m => h.known k (((fewer.map _).append sub).subset m)
  · intro s m
    rw [kept s.key (old m).2]
    exact h.covered s (old m).1
  · intro open_ s m
    rw [kept s.key (old m).2]
    exact h.even open_ s (old m).1

/-- Once a pool is closed, its connections are no longer counted exactly. -/
lemma Balanced.close (h : Balanced slots nextKey closed entries) (sub : entries'.Sublist entries) :
    Balanced slots nextKey true entries' := by
  refine ⟨h.distinct, ?_, ?_, nofun, h.limited⟩
  · exact fun k m => h.known k (((List.Sublist.refl _).append sub).subset m)
  · exact fun s m => (sub.count_le s.key).trans (h.covered s m)

end Balanced

/-! ### Books -/

/-- The numbers of the open connections: idle and lent. -/
def numbers (p : Pool) (guards : List (Nat × Nat)) : List Nat :=
  p.available.map (·.connection.id) ++ guards.map Prod.fst

/-- The keys of the slots of all connections: idle, lent and being opened. -/
def entries (p : Pool) (guards : List (Nat × Nat)) (reserved : List Nat) : List Nat :=
  p.available.map (·.slot) ++ (guards.map Prod.snd ++ reserved)

/-- The counts of a pool agree with the lent connections `guards`, each given by its number and the
key of its slot, and with the slots `reserved` of the connections that are being opened. -/
structure Books (limit : Nat) (p : Pool) (guards : List (Nat × Nat)) (reserved : List Nat) :
    Prop where
  limit : p.maxTotal = limit
  pending : p.pending = reserved.length
  inUse : p.inUse.Perm guards
  distinct : (p.numbers guards).Nodup
  known : ∀ id ∈ p.numbers guards, id < p.nextConnection
  balanced : Balanced p.slots p.nextKey p.closed (p.entries guards reserved)
  room : p.maxTotal = 0 ∨ p.total ≤ p.maxTotal
  idle : ∀ i ∈ p.available, i.connection.isUsable = true ∧ i.slot ∈ p.slots.map (·.key)

section Books

variable {limit : Nat} {p p' : Pool} {guards guards' : List (Nat × Nat)}
  {reserved reserved' : List Nat} {pooled : Pooled}

/-- The books hold of the same connections in any order. -/
lemma Books.perm (h : Books limit p guards reserved) (lent : guards.Perm guards')
    (opening : reserved.Perm reserved') : Books limit p guards' reserved' := by
  have numbers : (p.numbers guards).Perm (p.numbers guards') :=
    (lent.map Prod.fst).append_left _
  refine ⟨h.limit, h.pending.trans opening.length_eq, h.inUse.trans lent,
    numbers.nodup_iff.1 h.distinct, ?_, ?_, h.room, h.idle⟩
  · exact fun id m => h.known id (numbers.mem_iff.2 m)
  · exact h.balanced.perm (((lent.map Prod.snd).append opening).append_left _)

/-- The order in which the books have the lent connections is no matter. -/
lemma Books.reorder (h : Books limit p guards reserved) {inUse : List (Nat × Nat)}
    (perm : p.inUse.Perm inUse) : Books limit { p with inUse } guards reserved := by
  have room := h.room
  simp only [total] at room
  rw [perm.length_eq] at room
  exact ⟨h.limit, h.pending, perm.symm.trans h.inUse, h.distinct, h.known, h.balanced, room, h.idle⟩

/-- The connection that is lent was idle before the others. -/
lemma takeIdle_eq_some (e : p.takeIdle = .ok (some (pooled, p'))) :
    p.available = pooled :: p'.available ∧ p'.nextConnection = p.nextConnection := by
  unfold Pool.takeIdle at e
  split at e
  · cases e
  · split at e
    · cases e
    · rename_i available
      cases e
      exact ⟨available, rfl⟩

/-- An open pool lends the first of its idle connections. -/
lemma takeIdle_eq_some_iff :
    p.takeIdle = .ok (some (pooled, p')) ↔
      p.closed = false ∧ ∃ rest, p.available = pooled :: rest ∧
        p' = { p with available := rest }.enlist pooled := by
  unfold Pool.takeIdle
  cases p.closed with
  | true => simp
  | false =>
    cases p.available with
    | nil => simp
    | cons first rest =>
      constructor
      · intro e
        cases e
        exact ⟨rfl, rest, rfl, rfl⟩
      · rintro ⟨_, _, ⟨⟩, rfl⟩
        rfl

/-- A connection that is not kept is no longer lent, nor counted for its slot. -/
lemma giveBack_of_dropped (dropped : p.keeps pooled = false) :
    p.giveBack pooled =
      { p with inUse := p.inUse.filter (fun entry => entry.1 ≠ pooled.connection.id) }.forget
        pooled.slot :=
  if_neg (Bool.eq_false_iff.1 dropped)

/-- A connection that comes back is kept only if it can be used. -/
lemma giveBack_available (p : Pool) (pooled : Pooled) :
    (∀ i ∈ (p.giveBack pooled).available, i ∈ p.available ∨
        i = pooled ∧ pooled.connection.isUsable = true) ∧
      (p.giveBack pooled).nextConnection = p.nextConnection := by
  unfold Pool.giveBack
  dsimp only
  split
  · rename_i keeps
    simp only [Pool.keeps, Bool.and_eq_true] at keeps
    refine ⟨fun i m => ?_, rfl⟩
    rcases List.mem_append.1 m with old | new
    · exact .inl old
    · exact .inr ⟨List.mem_singleton.1 new, keeps.1.2⟩
  · exact ⟨fun i m => .inl m, rfl⟩

/-- An idle connection that is lent is entered with the others. -/
lemma Books.takeIdle (h : Books limit p guards reserved)
    (e : p.takeIdle = .ok (some (pooled, p'))) :
    Books limit p' ((pooled.connection.id, pooled.slot) :: guards) reserved := by
  unfold Pool.takeIdle at e
  split at e
  · cases e
  · split at e
    · cases e
    · rename_i first rest available
      obtain ⟨rfl, rfl⟩ : first = pooled ∧ _ = p' := by simpa using e
      have numbers : (p.numbers guards).Perm
          (rest.map (·.connection.id) ++ first.connection.id :: guards.map Prod.fst) := by
        unfold Pool.numbers
        rw [available]
        exact List.perm_middle.symm
      have entries : (p.entries guards reserved).Perm
          (rest.map (·.slot) ++ first.slot :: (guards.map Prod.snd ++ reserved)) := by
        unfold Pool.entries
        rw [available]
        exact List.perm_middle.symm
      refine ⟨h.limit, h.pending, h.inUse.cons _, numbers.nodup_iff.1 h.distinct, ?_, ?_, ?_, ?_⟩
      · exact fun id m => h.known id (numbers.mem_iff.2 m)
      · exact h.balanced.perm entries
      · have room := h.room
        simp only [total, enlist, available, List.length_cons] at room ⊢
        omega
      · exact fun i m => h.idle i (by rw [available]; exact List.mem_cons_of_mem _ m)

/-- Whoever has a turn is the slot at its position. -/
lemma getElem?_of_mem_turns {position : Nat} {slot : Slot} (m : (position, slot) ∈ p.turns) :
    p.slots[position]? = some slot := by
  unfold turns at m
  obtain ⟨step, _, e⟩ := List.mem_filterMap.1 m
  obtain ⟨slot', here, e'⟩ := Option.map_eq_some_iff.1 e
  cases e'
  exact here

/-- Every slot has its turn. -/
lemma mem_turns {position : Nat} {slot : Slot} (here : p.slots[position]? = some slot) :
    (position, slot) ∈ p.turns := by
  obtain ⟨inside, rfl⟩ := List.getElem?_eq_some_iff.1 here
  have count : 0 < p.slots.length := by omega
  obtain ⟨step, soon, turn⟩ :
      ∃ step < p.slots.length, (p.cursor + step) % p.slots.length = position := by
    refine ⟨(position + (p.slots.length - p.cursor % p.slots.length)) % p.slots.length,
      Nat.mod_lt _ count, ?_⟩
    have whole := Nat.mod_add_div p.cursor p.slots.length
    have less := Nat.mod_lt p.cursor count
    have sum : p.cursor + (position + (p.slots.length - p.cursor % p.slots.length)) =
        position + p.slots.length * (p.cursor / p.slots.length + 1) := by
      rw [Nat.mul_add, Nat.mul_one]
      omega
    rw [Nat.add_mod_mod, sum, Nat.add_mul_mod_self_left, Nat.mod_eq_of_lt inside]
  refine List.mem_filterMap.2 ⟨step, List.mem_range.2 soon, ?_⟩
  simp only [turn, here, Option.map_some]

/-- Room is reserved in an open pool for a slot that has some, and the cursor goes behind it. -/
lemma reserve?_eq_some {r : Reservation} (e : p.reserve? = some (r, p')) :
    p.closed = false ∧ p.hasCapacity = true ∧
      ∃ position slot, p.slots[position]? = some slot ∧ slot.hasCapacity = true ∧
        r = { slot := slot.key, host := slot.config.id } ∧
        p' = { p with
          slots := p.slots.set position { slot with opened := slot.opened + 1 }
          cursor := (position + 1) % p.slots.length
          pending := p.pending + 1 } := by
  unfold reserve? at e
  split at e
  · cases e
  · rename_i open_
    split at e
    · cases e
    · rename_i room
      split at e
      · cases e
      · rename_i position slot found
        refine ⟨by simpa using open_, by simpa using room, position, slot,
          getElem?_of_mem_turns (List.mem_of_find?_eq_some found), ?_, ?_⟩
        · simpa using List.find?_some found
        · simpa [eq_comm] using e

/-- An open pool with room reserves it if a host has room too. -/
lemma exists_reserve? (open_ : p.closed = false) (room : p.hasCapacity = true)
    (host : ∃ s ∈ p.slots, s.hasCapacity = true) : ∃ r p', p.reserve? = some (r, p') := by
  obtain ⟨slot, m, free⟩ := host
  obtain ⟨position, here⟩ := List.mem_iff_getElem?.1 m
  cases found : p.turns.find? (·.2.hasCapacity) with
  | none => exact absurd free (List.find?_eq_none.1 found _ (mem_turns here))
  | some place =>
    unfold reserve?
    simp only [open_, room, Bool.false_eq_true, Bool.not_true, if_false, found]
    exact ⟨_, _, rfl⟩

/-- A pool has room if it has no limit or is below it. -/
lemma hasCapacity_iff : p.hasCapacity = true ↔ p.maxTotal = 0 ∨ p.total < p.maxTotal := by
  simp [hasCapacity]

/-- Room that is reserved is entered with the other reservations. -/
lemma Books.reserve (h : Books limit p guards reserved) {r : Reservation}
    (e : p.reserve? = some (r, p')) : Books limit p' guards (r.slot :: reserved) := by
  obtain ⟨_, room, position, slot, here, free, rfl, rfl⟩ := reserve?_eq_some e
  have keys : (p.slots.set position { slot with opened := slot.opened + 1 }).map (·.key) =
      p.slots.map (·.key) := by
    rw [set_eq_recount h.balanced.distinct here (· + 1), recount_keys]
  refine ⟨h.limit, by simp [h.pending], h.inUse, h.distinct, h.known, ?_, ?_, ?_⟩
  · apply (h.balanced.reserve here free).perm
    refine List.perm_middle.symm.trans (List.Perm.append_left _ ?_)
    exact List.perm_middle.symm
  · rw [hasCapacity_iff] at room
    simp only [total] at room ⊢
    omega
  · intro i m
    obtain ⟨usable, known⟩ := h.idle i m
    exact ⟨usable, keys ▸ known⟩

/-- What is reserved is room for a configured host. -/
lemma reserve?_configured (h : Books limit p guards reserved) {r : Reservation}
    (e : p.reserve? = some (r, p')) : r.slot ∈ p'.slots.map (·.key) := by
  obtain ⟨_, _, position, slot, here, _, rfl, rfl⟩ := reserve?_eq_some e
  show slot.key ∈ (p.slots.set position { slot with opened := slot.opened + 1 }).map (·.key)
  rw [set_eq_recount h.balanced.distinct here (· + 1), recount_keys]
  exact List.mem_map_of_mem (List.mem_of_getElem? here)

/-- The next number is new. -/
lemma Books.numbered (h : Books limit p guards reserved) {ids : List Nat}
    (perm : (p.nextConnection :: p.numbers guards).Perm ids) :
    ids.Nodup ∧ ∀ id ∈ ids, id < p.nextConnection + 1 := by
  have fresh : p.nextConnection ∉ p.numbers guards := fun m =>
    absurd (h.known p.nextConnection m) (lt_irrefl _)
  refine ⟨perm.nodup_iff.1 (List.nodup_cons.2 ⟨fresh, h.distinct⟩), fun id m => ?_⟩
  rcases List.mem_cons.1 (perm.mem_iff.2 m) with rfl | old
  · exact Nat.lt_succ_self _
  · exact Nat.lt_succ_of_lt (h.known id old)

/-- The connection that was opened for a reservation is lent. -/
lemma Books.connected {r : Reservation} (h : Books limit p guards (r.slot :: reserved))
    (address : Address) :
    Books limit (p.connected r address).2 ((p.nextConnection, r.slot) :: guards) reserved := by
  have numbers : (p.nextConnection :: p.numbers guards).Perm
      (p.available.map (·.connection.id) ++ p.nextConnection :: guards.map Prod.fst) :=
    List.perm_middle.symm
  obtain ⟨distinct, known⟩ := h.numbered numbers
  refine ⟨h.limit, ?_, h.inUse.cons _, distinct, known, ?_, ?_, h.idle⟩
  · show p.pending - 1 = reserved.length
    simp [h.pending]
  · exact h.balanced.perm (List.Perm.append_left _ List.perm_middle)
  · have room := h.room
    have pending := h.pending
    simp only [Pool.connected, enlist, consume, number, total, List.length_cons] at room pending ⊢
    omega

/-- The connection that was opened ahead is kept. -/
lemma Books.shelve {r : Reservation} (h : Books limit p guards (r.slot :: reserved))
    (configured : r.slot ∈ p.slots.map (·.key)) (address : Address) :
    Books limit ((p.number.consume).shelve (p.connection r address)) guards reserved := by
  have numbers : (p.nextConnection :: p.numbers guards).Perm
      ((p.available ++ [p.connection r address]).map (·.connection.id) ++ guards.map Prod.fst) := by
    rw [List.map_append, List.append_assoc]
    exact List.perm_middle.symm
  have entries : (p.entries guards (r.slot :: reserved)).Perm
      ((p.available ++ [p.connection r address]).map (·.slot) ++
        (guards.map Prod.snd ++ reserved)) := by
    rw [List.map_append, List.append_assoc]
    exact List.Perm.append_left _ List.perm_middle
  obtain ⟨distinct, known⟩ := h.numbered numbers
  refine ⟨h.limit, ?_, h.inUse, distinct, known, h.balanced.perm entries, ?_, ?_⟩
  · show p.pending - 1 = reserved.length
    simp [h.pending]
  · have room := h.room
    have pending := h.pending
    simp only [Pool.shelve, consume, number, total, List.length_cons, List.length_append,
      List.length_nil] at room pending ⊢
    omega
  · intro i m
    rcases List.mem_append.1 m with old | new
    · exact h.idle i old
    · cases List.mem_singleton.1 new
      exact ⟨rfl, configured⟩

/-- The slots keep their keys when a connection is no longer counted. -/
lemma forget_keys (p : Pool) (slot : Nat) :
    (p.forget slot).slots.map (·.key) = p.slots.map (·.key) :=
  recount_keys p.slots slot (· - 1)

/-- A reservation that is given up leaves the books. -/
lemma Books.release {r : Reservation} (h : Books limit p guards (r.slot :: reserved)) :
    Books limit (p.release r) guards reserved := by
  have entries : (p.entries guards (r.slot :: reserved)).Perm
      (r.slot :: p.entries guards reserved) :=
    (List.Perm.append_left _ List.perm_middle).trans List.perm_middle
  refine ⟨h.limit, ?_, h.inUse, h.distinct, h.known, (h.balanced.perm entries).forget, ?_, ?_⟩
  · show p.pending - 1 = reserved.length
    simp [h.pending]
  · have room := h.room
    simp only [Pool.release, forget, consume, total] at room ⊢
    omega
  · intro i m
    obtain ⟨usable, known⟩ := h.idle i m
    exact ⟨usable, (forget_keys p r.slot).symm ▸ known⟩

/-- Without the number of a connection that comes back, the others are lent. -/
lemma Books.inUse_filter {id slot : Nat} (h : Books limit p ((id, slot) :: guards) reserved) :
    (p.inUse.filter (fun entry => entry.1 ≠ id)).Perm guards := by
  have numbers : (p.numbers ((id, slot) :: guards)).Perm (id :: p.numbers guards) :=
    List.perm_middle
  have fresh := (List.nodup_cons.1 (numbers.nodup_iff.1 h.distinct)).1
  refine (h.inUse.filter _).trans (List.Perm.of_eq ?_)
  rw [List.filter_cons_of_neg (by simp)]
  refine List.filter_eq_self.2 fun entry m => ?_
  have other : entry.1 ≠ id := by
    intro same
    exact fresh (List.mem_append_right _ (List.mem_map.2 ⟨entry, m, same⟩))
  simpa using other

/-- A lent connection comes back; it is known by its number. -/
lemma Books.giveBack (h : Books limit p ((pooled.connection.id, pooled.slot) :: guards) reserved) :
    Books limit (p.giveBack pooled) guards reserved := by
  have numbers : (p.numbers ((pooled.connection.id, pooled.slot) :: guards)).Perm
      (pooled.connection.id :: p.numbers guards) := List.perm_middle
  have entries : (p.entries ((pooled.connection.id, pooled.slot) :: guards) reserved).Perm
      (pooled.slot :: p.entries guards reserved) := List.perm_middle
  have distinct := (List.nodup_cons.1 (numbers.nodup_iff.1 h.distinct)).2
  have known : ∀ id ∈ p.numbers guards, id < p.nextConnection := fun id m =>
    h.known id (numbers.mem_iff.2 (List.mem_cons_of_mem _ m))
  have inUse := h.inUse_filter
  have lent := inUse.length_eq
  have lent' := h.inUse.length_eq
  have room := h.room
  rw [List.length_cons] at lent'
  unfold Pool.giveBack
  dsimp only
  split
  · -- The connection is kept: it moves from the lent ones to the idle ones.
    rename_i keeps
    simp only [Pool.keeps, Bool.and_eq_true, Bool.not_eq_true'] at keeps
    obtain ⟨⟨_, usable⟩, slot⟩ := keeps
    have numbers' : (pooled.connection.id :: p.numbers guards).Perm
        ((p.available ++ [pooled]).map (·.connection.id) ++ guards.map Prod.fst) := by
      rw [List.map_append, List.append_assoc]
      exact List.perm_middle.symm
    have entries' : (pooled.slot :: p.entries guards reserved).Perm
        ((p.available ++ [pooled]).map (·.slot) ++ (guards.map Prod.snd ++ reserved)) := by
      rw [List.map_append, List.append_assoc]
      exact List.perm_middle.symm
    refine ⟨h.limit, h.pending, inUse, ?_, ?_, h.balanced.perm (entries.trans entries'), ?_, ?_⟩
    · exact (numbers.trans numbers').nodup_iff.1 h.distinct
    · exact fun id m => h.known id ((numbers.trans numbers').mem_iff.2 m)
    · simp only [Pool.shelve, total, List.length_append, List.length_singleton] at room ⊢
      omega
    · intro i m
      rcases List.mem_append.1 m with old | new
      · exact h.idle i old
      · cases List.mem_singleton.1 new
        obtain ⟨s, found⟩ := Option.isSome_iff_exists.1 slot
        refine ⟨usable, List.mem_map.2 ⟨s, List.mem_of_find?_eq_some found, ?_⟩⟩
        simpa using List.find?_some found
  · -- The connection is dropped, and its slot, unless it is gone, has room again.
    refine ⟨h.limit, h.pending, inUse, distinct, known, (h.balanced.perm entries).forget, ?_, ?_⟩
    · simp only [forget, total] at room ⊢
      omega
    · intro i m
      obtain ⟨usable, known⟩ := h.idle i m
      exact ⟨usable, (forget_keys p pooled.slot).symm ▸ known⟩

/-- A host that is added is a new one and comes behind the others. -/
lemma addHost_eq_ok {config : HostConfig} (e : p.addHost config = .ok p') :
    config.id ∉ p.slots.map (·.config.id) ∧
      p' = { p with
        slots := p.slots ++ [{ key := p.nextKey, config }]
        nextKey := p.nextKey + 1 } := by
  unfold Pool.addHost at e
  split at e
  · cases e
  · rename_i fresh
    cases e
    refine ⟨?_, rfl⟩
    simpa [Pool.hosts] using fresh

/-- A host comes without connections. -/
lemma addHost_available {config : HostConfig} (e : p.addHost config = .ok p') :
    p'.available = p.available ∧ p'.nextConnection = p.nextConnection := by
  obtain ⟨_, rfl⟩ := addHost_eq_ok e
  exact ⟨rfl, rfl⟩

/-- A host that is added has no connections in the books. -/
lemma Books.addHost (h : Books limit p guards reserved) {config : HostConfig}
    (e : p.addHost config = .ok p') : Books limit p' guards reserved := by
  obtain ⟨_, rfl⟩ := addHost_eq_ok e
  refine ⟨h.limit, h.pending, h.inUse, h.distinct, h.known, h.balanced.addSlot config, h.room, ?_⟩
  intro i m
  obtain ⟨usable, known⟩ := h.idle i m
  refine ⟨usable, ?_⟩
  rw [List.map_append]
  exact List.mem_append_left _ known

/-- The slot of a host that is removed goes, and its idle connections with it. -/
lemma removeHost_eq_ok {id : HostId} (e : p.removeHost id = .ok p') :
    ∃ position s, p.slots[position]? = some s ∧ s.config.id = id ∧
      p' = { p with
        slots := p.slots.eraseIdx position
        cursor := cursorAfterRemoval p.cursor position (p.slots.eraseIdx position).length
        available := p.available.filter (·.slot ≠ s.key) } := by
  unfold Pool.removeHost at e
  split at e
  · cases e
  · rename_i position found
    obtain ⟨inside, same, _⟩ := List.findIdx?_eq_some_iff_getElem.1 found
    have here : p.slots[position]? = some p.slots[position] := List.getElem?_eq_getElem inside
    cases e
    refine ⟨position, p.slots[position], here, by simpa using same, ?_⟩
    simp [here]

/-- Where a host is removed, no connection becomes idle. -/
lemma removeHost_available {id : HostId} (e : p.removeHost id = .ok p') :
    (∀ i ∈ p'.available, i ∈ p.available) ∧ p'.nextConnection = p.nextConnection := by
  obtain ⟨_, _, _, _, rfl⟩ := removeHost_eq_ok e
  exact ⟨fun i m => List.mem_of_mem_filter m, rfl⟩

/-- Dropping the connections of one slot leaves those of another. -/
lemma count_map_filter_slot (available : List Pooled) {key other : Nat} (ne : other ≠ key) :
    ((available.filter (fun idle => idle.slot ≠ key)).map (·.slot)).count other =
      (available.map (·.slot)).count other := by
  rw [← List.count_filter (l := available.map (·.slot)) (p := fun k => k ≠ key) (by simpa using ne),
    List.filter_map]
  rfl

/-- The books hold on without a host, whose idle connections are dropped. -/
lemma Books.removeHost (h : Books limit p guards reserved) {id : HostId}
    (e : p.removeHost id = .ok p') : Books limit p' guards reserved := by
  obtain ⟨position, slot, here, _, rfl⟩ := removeHost_eq_ok e
  rw [eraseIdx_eq_filter h.balanced.distinct here]
  have fewer : (p.available.filter (fun idle => idle.slot ≠ slot.key)).Sublist p.available :=
    List.filter_sublist
  have numbers : ((p.available.filter (fun idle => idle.slot ≠ slot.key)).map
      (·.connection.id) ++ guards.map Prod.fst).Sublist (p.numbers guards) :=
    (fewer.map _).append (List.Sublist.refl _)
  -- Connections that are lent or being opened for the host still count, for a slot that is gone.
  refine ⟨h.limit, h.pending, h.inUse, h.distinct.sublist numbers, ?_, ?_, ?_, ?_⟩
  · exact fun id m => h.known id (numbers.subset m)
  · apply h.balanced.removeSlot ((fewer.map _).append (List.Sublist.refl _))
    intro k other
    have counts := count_map_filter_slot p.available other
    simp only [Pool.entries, List.count_append, counts]
  · have room := h.room
    have len := fewer.length_le
    simp only [total] at room ⊢
    omega
  · intro i m
    obtain ⟨old, other⟩ := List.mem_filter.1 m
    obtain ⟨usable, known⟩ := h.idle i old
    refine ⟨usable, ?_⟩
    obtain ⟨s, m', same⟩ := List.mem_map.1 known
    have other' : s.key ≠ slot.key := by
      rw [same]
      simpa using other
    exact List.mem_map.2 ⟨s, List.mem_filter.2 ⟨m', by simpa using other'⟩, same⟩

/-- The books hold on when the pool is closed. -/
lemma Books.close (h : Books limit p guards reserved) :
    Books limit p.close guards reserved := by
  have fewer : (guards.map Prod.fst).Sublist (p.numbers guards) := List.sublist_append_right _ _
  refine ⟨h.limit, h.pending, h.inUse, h.distinct.sublist fewer, ?_, ?_, ?_, by simp [Pool.close]⟩
  · exact fun id m => h.known id (fewer.subset m)
  · exact h.balanced.close (List.sublist_append_right _ _)
  · have room := h.room
    simp only [Pool.close, total, List.length_nil] at room ⊢
    omega

/-- How a checkout begins. -/
inductive Begun (p : Pool) : Checkout × Pool → Prop where
  | refused : Begun p (.refused .poolExhausted, p)
  | ready {idle q} : p.takeIdle = .ok (some (idle, q)) → Begun p (.ready idle, q)
  | connecting {r q} : p.reserve? = some (r, q) → Begun p (.connecting r, q)

/-- A checkout begins in one of three ways. -/
lemma checkOut_begun (p : Pool) : Begun p p.checkOut := by
  unfold checkOut
  split
  · rename_i fault refused
    obtain rfl : fault = .poolExhausted := by
      unfold takeIdle at refused
      split at refused
      · exact (Except.error.inj refused).symm
      · split at refused <;> cases refused
    exact .refused
  · rename_i taken
    exact .ready taken
  · split
    · exact .refused
    · rename_i reserved
      exact .connecting reserved

/-! ### New pools -/

section build

variable {σ : Type} {dial : Nat → HostId → StateT σ Option (Except Fault Address)} {s s' : σ}
  {P : Pool → Prop}

/-- What is kept where a host is added is kept where several are. -/
lemma addHosts_induct (host : ∀ {p p' config}, P p → p.addHost config = .ok p' → P p') (h : P p)
    {configs : List HostConfig} (e : p.addHosts configs = .ok p') : P p' := by
  unfold Pool.addHosts at e
  induction configs generalizing p with
  | nil =>
    cases e
    exact h
  | cons config configs ih =>
    rw [List.foldlM_cons] at e
    cases added : p.addHost config with
    | error fault =>
      rw [added] at e
      cases e
    | ok p1 =>
      rw [added] at e
      exact ih (host h added) e

/-- What is kept where one connection is opened ahead is kept where several are. -/
lemma prefill_induct
    (ahead : ∀ {p p' r} (address : Address), P p → p.reserve? = some (r, p') →
      P ((p'.number.consume).shelve (p'.connection r address)))
    (h : P p) {count : Nat} (e : Pool.prefill dial count p s = some (.ok p', s')) : P p' := by
  induction count generalizing p s with
  | zero =>
    cases e
    exact h
  | succ count ih =>
    unfold Pool.prefill at e
    cases reserved : p.reserve? with
    | none =>
      rw [reserved] at e
      cases e
      exact h
    | some reservation =>
      obtain ⟨r, p1⟩ := reservation
      rw [reserved] at e
      simp only [bind, StateT.bind] at e
      cases dialled : dial p1.nextConnection r.host s with
      | none =>
        rw [dialled] at e
        cases e
      | some answer =>
        obtain ⟨result, s1⟩ := answer
        rw [dialled] at e
        cases result with
        | error fault => cases e
        | ok address => exact ih (ahead address h reserved) e

/-- A new pool is an empty one with the hosts of the configuration added. -/
lemma ofConfig_eq_ok {config : Config} (made : ofConfig config = .ok p) :
    ∃ opening, addHosts { maxTotal := config.maxTotal.toNat, opening } config.hosts = .ok p := by
  unfold ofConfig at made
  cases valid : config.validate with
  | error fault =>
    rw [valid] at made
    cases made
  | ok u =>
    rw [valid] at made
    exact ⟨_, made⟩

/-- What holds of an empty pool, and is kept where a host is added, holds of every new pool. -/
lemma ofConfig_induct {config : Config}
    (empty : ∀ opening, P { maxTotal := config.maxTotal.toNat, opening })
    (host : ∀ {p p' config}, P p → p.addHost config = .ok p' → P p')
    (made : ofConfig config = .ok p) : P p := by
  obtain ⟨opening, added⟩ := ofConfig_eq_ok made
  exact addHosts_induct host (empty opening) added

/-- A pool that is built is a new one, or connections have been opened ahead for it. -/
lemma build_eq_ok {config : Config} (e : build dial config s = some (.ok p, s')) :
    ∃ new, ofConfig config = .ok new ∧
      (p = new ∨ Pool.prefill dial new.maxTotal new s = some (.ok p, s')) := by
  unfold build at e
  cases made : ofConfig config with
  | error fault =>
    rw [made] at e
    cases e
  | ok new =>
    rw [made] at e
    refine ⟨new, rfl, ?_⟩
    cases lazy : config.lazyConnect with
    | true =>
      rw [lazy] at e
      cases e
      exact .inl rfl
    | false =>
      rw [lazy] at e
      exact .inr e

/-- What also is kept where a connection is opened ahead holds of every pool that is built. -/
lemma build_induct {config : Config}
    (empty : ∀ opening, P { maxTotal := config.maxTotal.toNat, opening })
    (host : ∀ {p p' config}, P p → p.addHost config = .ok p' → P p')
    (ahead : ∀ {p p' r} (address : Address), P p → p.reserve? = some (r, p') →
      P ((p'.number.consume).shelve (p'.connection r address)))
    (e : build dial config s = some (.ok p, s')) : P p := by
  obtain ⟨new, made, same | filled⟩ := build_eq_ok e
  · rw [same]
    exact ofConfig_induct empty host made
  · exact prefill_induct ahead (ofConfig_induct empty host made) filled

/-- The books of a new pool are empty. -/
lemma books_empty (limit : Nat) (opening : Opening) :
    Books limit { maxTotal := limit, opening } [] [] :=
  ⟨rfl, rfl, .refl _, by simp [numbers], by simp [numbers],
    ⟨by simp, by simp [entries], by simp, by simp, by simp⟩, .inr (Nat.zero_le _), by simp⟩

/-- The books of a pool that was built. -/
lemma books_build {config : Config} (e : build dial config s = some (.ok p, s')) :
    Books config.maxTotal.toNat p [] [] := by
  refine build_induct (P := fun p => Books config.maxTotal.toNat p [] []) ?_ ?_ ?_ e
  · exact books_empty _
  · exact fun h added => h.addHost added
  · intro p p' r address h reserved
    exact (h.reserve reserved).shelve (reserve?_configured h reserved) address

/-- The connections that were opened ahead hold no input. -/
lemma inStep_build {config : Config} (e : build dial config s = some (.ok p, s')) :
    ∀ i ∈ p.available, i.connection.InStep := by
  refine build_induct (P := fun p => ∀ i ∈ p.available, i.connection.InStep) ?_ ?_ ?_ e
  · simp
  · intro p p' config h added
    rw [(addHost_available added).1]
    exact h
  · intro p p' r address h reserved i m
    obtain ⟨_, _, _, _, _, _, _, rfl⟩ := reserve?_eq_some reserved
    rcases List.mem_append.1 m with old | new
    · exact h i old
    · cases List.mem_singleton.1 new
      exact ⟨rfl, rfl, rfl⟩

end build

end Books

end Pool

end StoreClient
