import Mathlib
import StoreClient.Client
import StoreClient.Proofs.Peer
import StoreClient.Proofs.Pool

/-!
# Clients and their peers

A world is a client together with the peers at the other ends of its connections. Calls are made,
connected, expire, are cancelled or lose their connections, hosts come and go, and peers answer, in
any order (`World.Step`).

At any time each call is as it should be among the peers (`Call.Sound`), the books of the pool are
kept, and behind every idle connection is a peer with nothing left to say (`World.Sound`). What holds
besides one call is its `Rest`: a call is taken out of a sound world, goes on, and is put back.
-/

namespace StoreClient

open Operation (Event Awaiting)
open Exchange (Turn Underway Left)
open Pool (Pooled Reservation Books)

/-- A client and its peers, by the numbers of its connections. -/
structure World where
  client : Client
  peers : Nat → Peer

namespace World

/-- A client over a pool, before any call and with peers that have heard nothing. -/
def start (pool : Pool) (timeout : Option UInt64) : World where
  client := { pool, operationTimeout := timeout }
  peers := fun _ => {}

/-- The world with another pool. -/
def withPool (w : World) (pool : Pool) : World := { w with client := { w.client with pool } }

/-- Something happens to the client. -/
def happen (w : World) (input : Client.Input) : World := { w with client := w.client.step input }

/-- What may happen. -/
inductive Step (w : World) : World → Prop where
  | made (request : Request) (delivery : Delivery) : Step w (w.happen (.made request delivery))
  | connected (number : Nat) (address : Address) :
    Step w (w.happen (.connected number (.ok address)))
  /-- No byte stream could be opened; errors of the server come only from peers. -/
  | unconnected (number : Nat) {fault : Fault} :
    fault.serverError? = none →
    Step w (w.happen (.connected number (.error fault)))
  | completed (number : Nat) {call slot x completion peer} :
    w.client.calls[number]? = some call →
    call.stage = .exchanging slot x →
    (w.peers x.connection.id).Completes number x.await completion peer →
    Step w
      { client := w.client.step (.completed number completion)
        peers := Function.update w.peers x.connection.id peer }
  | expired (number : Nat) : Step w (w.happen (.expired number))
  | cancelled (number : Nat) : Step w (w.happen (.cancelled number))
  | closed : Step w (w.happen .closed)
  | hostAdded {config pool} :
    w.client.pool.addHost config = .ok pool →
    Step w (w.withPool pool)
  | hostRemoved {id pool} :
    w.client.pool.removeHost id = .ok pool →
    Step w (w.withPool pool)
  | answered (n : Nat) {s : Served} :
    (w.peers n).May s →
    Step w { w with peers := Function.update w.peers n ((w.peers n).answer s) }

/-- What may happen in any number of steps. -/
def Reaches : World → World → Prop := Relation.ReflTransGen Step

/-- Some peer gave the answer to the request of this call. -/
def Produced (w : World) (number : Nat) (request : Frame) (answer : Answer) : Prop :=
  ∃ n, (w.peers n).Produced number request answer

end World

/-- A call has ended with a response or with an error of the server: its listener was told so, or
whoever waits for the answer is given it. A typed call is one that is waited for; it only reads what
it is given (`TypedCall.read`). -/
def Call.Answered (c : Call) : Prop :=
  (∃ e ∈ c.told, e.IsAnswer) ∨
    (∃ r, c.answer? = some (.ok r)) ∨ ∃ e, c.answer? = some (.error (.server e))

namespace Call

/-- The connection that a call holds: its number and the key of its slot. -/
def guards (c : Call) : List (Nat × Nat) :=
  match c.stage with
  | .exchanging slot x => [(x.connection.id, slot)]
  | _ => []

/-- The slot of the connection that is being opened for a call. -/
def reserved (c : Call) : List Nat :=
  match c.stage with
  | .connecting r => [r.slot]
  | _ => []

/-- What holds of the call of a number among its peers: an exchange goes on as it should with a peer
that answers this call, and an outcome that came from a peer was produced for it. -/
inductive Sound (peers : Nat → Peer) (number : Nat) : Call → Prop where
  | connecting {request delivery r} :
    Sound peers number { request, delivery, stage := .connecting r }
  | exchanging {request delivery slot x events t} :
    Underway (.ofRequest request delivery) x t events →
    (peers x.connection.id).Linked number request.encode.frame t →
    Sound peers number { request, delivery, stage := .exchanging slot x, events }
  | unserved {request delivery fault events} :
    fault.serverError? = none →
    Sound peers number { request, delivery, stage := .unserved fault, events }
  | ended {request delivery result events} :
    (∀ fault, result ≠ .error fault) →
    ((∃ e ∈ events, e.IsAnswer) →
      ∃ answer, (∃ n, (peers n).Produced number request.encode.frame answer) ∧
        answer.Told delivery events) →
    Sound peers number { request, delivery, stage := .ended result, events }
  | dropped {request delivery events} :
    (∀ e ∈ events, ¬ e.IsAnswer) →
    Sound peers number { request, delivery, stage := .dropped, events }

/-- What happens at other peers does not concern a call. -/
lemma Sound.grows {peers peers' : Nat → Peer} {number : Nat} {c : Call} (h : c.Sound peers number)
    (grows : ∀ n, (peers n).Grows (peers' n)) (same : ∀ g ∈ c.guards, peers' g.1 = peers g.1) :
    c.Sound peers' number := by
  cases h with
  | connecting => exact .connecting
  | exchanging u link => exact .exchanging u (same _ (List.mem_singleton_self _) ▸ link)
  | unserved own => exact .unserved own
  | ended own produced =>
    refine .ended own fun outcome => ?_
    obtain ⟨answer, ⟨n, made⟩, told⟩ := produced outcome
    exact ⟨answer, ⟨n, made.grows (grows n)⟩, told⟩
  | dropped silent => exact .dropped silent

/-- Where a peer answers, it answers the call that it is linked to, if it is to any. -/
lemma Sound.answered {peers : Nat → Peer} {number : Nat} {c : Call} (h : c.Sound peers number)
    {n : Nat} {s : Served} (may : (peers n).May s) :
    c.Sound (Function.update peers n ((peers n).answer s)) number := by
  have grows := Peer.grows_update ((peers n).grows_answer s)
  have old := h
  cases h with
  | @exchanging request delivery slot x events t u link =>
    refine .exchanging u ?_
    by_cases same : x.connection.id = n
    · subst same
      rw [Function.update_self]
      exact link.answer u.fits u.accepted_prefix may
    · rw [Function.update_of_ne same]
      exact link
  | connecting | unserved _ | ended _ _ | dropped _ => exact old.grows grows (by simp [guards])

end Call

namespace World

/-- What holds of a world at any time. -/
structure Sound (limit : Nat) (w : World) : Prop where
  books : Books limit w.client.pool (w.client.calls.flatMap Call.guards)
    (w.client.calls.flatMap Call.reserved)
  quiet : ∀ i ∈ w.client.pool.available,
    i.connection.InStep ∧ (w.peers i.connection.id).Quiet
  unused : ∀ n, w.client.pool.nextConnection ≤ n → w.peers n = {}
  calls : ∀ (number : Nat) (call : Call),
    w.client.calls[number]? = some call → call.Sound w.peers number

/-- What holds of a world besides the call of a number, which holds the connections `own` and the
reservations `opening`. -/
structure Rest (limit : Nat) (w : World) (number : Nat) (own : List (Nat × Nat))
    (opening : List Nat) : Prop where
  books : Books limit w.client.pool
    (own ++ (w.client.calls.eraseIdx number).flatMap Call.guards)
    (opening ++ (w.client.calls.eraseIdx number).flatMap Call.reserved)
  quiet : ∀ i ∈ w.client.pool.available,
    i.connection.InStep ∧ (w.peers i.connection.id).Quiet
  unused : ∀ n, w.client.pool.nextConnection ≤ n → w.peers n = {}
  calls : ∀ other ≠ number, ∀ call : Call,
    w.client.calls[other]? = some call → call.Sound w.peers other

section Rest

variable {limit number : Nat} {w : World} {own own' : List (Nat × Nat)} {opening opening' : List Nat}
  {call : Call}

/-- A call is taken out of a world. -/
lemma Sound.rest (h : w.Sound limit) (here : w.client.calls[number]? = some call) :
    w.Rest limit number call.guards call.reserved := by
  obtain ⟨inside, rfl⟩ := List.getElem?_eq_some_iff.1 here
  have first := (List.getElem_cons_eraseIdx_perm inside).symm
  refine ⟨h.books.perm ?_ ?_, h.quiet, h.unused, fun other _ => h.calls other⟩
  · exact first.flatMap_right Call.guards
  · exact first.flatMap_right Call.reserved

/-- A call that is not there yet is taken out of a world. -/
lemma Sound.restNew (h : w.Sound limit) : w.Rest limit w.client.calls.length [] [] := by
  have all : w.client.calls.eraseIdx w.client.calls.length = w.client.calls :=
    List.eraseIdx_of_length_le le_rfl
  exact ⟨by rw [all]; exact h.books, h.quiet, h.unused, fun other _ => h.calls other⟩

/-- A call is put into a world, in the place of the one that was taken out. -/
lemma Rest.put (h : w.Rest limit number own opening) {c : Client} (pool : c.pool = w.client.pool)
    (here : c.calls[number]? = some call)
    (others : ∀ other ≠ number, c.calls[other]? = w.client.calls[other]?)
    (rest : c.calls.eraseIdx number = w.client.calls.eraseIdx number)
    (holds : call.guards = own) (opens : call.reserved = opening)
    (sound : call.Sound w.peers number) : Sound limit { w with client := c } := by
  have mine := here
  obtain ⟨inside, rfl⟩ := List.getElem?_eq_some_iff.1 here
  have first := List.getElem_cons_eraseIdx_perm inside
  have books := h.books
  rw [← rest, ← holds, ← opens, ← pool] at books
  refine ⟨books.perm ?_ ?_, ?_, ?_, ?_⟩
  · exact first.flatMap_right Call.guards
  · exact first.flatMap_right Call.reserved
  · exact fun i m => h.quiet i (pool ▸ m)
  · exact fun n le => h.unused n (pool ▸ le)
  · intro other call' here'
    by_cases same : other = number
    · subst same
      obtain rfl := Option.some.inj (mine.symm.trans here')
      exact sound
    · exact h.calls other same call' ((others other same).symm.trans here')

/-- A call that has gone on is put back into its world. -/
lemma Rest.set (h : w.Rest limit number own opening) (inside : number < w.client.calls.length)
    (holds : call.guards = own) (opens : call.reserved = opening)
    (sound : call.Sound w.peers number) :
    Sound limit { w with client := w.client.put number call } := by
  apply h.put (c := w.client.put number call) rfl _ _ _ holds opens sound
  · exact List.getElem?_set_self inside
  · exact fun other ne => List.getElem?_set_ne (Ne.symm ne)
  · exact List.eraseIdx_set_eq

/-- A new call is put into its world. -/
lemma Rest.snoc (h : w.Rest limit w.client.calls.length own opening) (holds : call.guards = own)
    (opens : call.reserved = opening) (sound : call.Sound w.peers w.client.calls.length) :
    Sound limit { w with client := { w.client with calls := w.client.calls ++ [call] } } := by
  apply h.put (c := { w.client with calls := w.client.calls ++ [call] }) rfl _ _ _ holds opens sound
  · exact List.getElem?_concat_length
  · intro other ne
    rcases Nat.lt_or_gt_of_ne ne with before | behind
    · exact List.getElem?_append_left before
    · rw [List.getElem?_eq_none behind.le, List.getElem?_eq_none]
      simpa using behind
  · show (w.client.calls ++ [call]).eraseIdx w.client.calls.length = _
    rw [List.eraseIdx_append_of_length_le le_rfl, List.eraseIdx_of_length_le le_rfl]
    simp

/-- The peer of the connection that the call holds changes. -/
lemma Rest.peer {id slot : Nat} (h : w.Rest limit number [(id, slot)] opening) {peer : Peer}
    (grows : (w.peers id).Grows peer) :
    Rest limit { w with peers := Function.update w.peers id peer } number [(id, slot)] opening := by
  have distinct := h.books.distinct
  have known : id < w.client.pool.nextConnection := h.books.known id (by simp [Pool.numbers])
  simp only [Pool.numbers, List.singleton_append, List.map_cons] at distinct
  -- The connection is neither idle nor held by another call, and it is not a new one.
  obtain ⟨_, lent, apart⟩ := List.nodup_append.1 distinct
  have fresh := (List.nodup_cons.1 lent).1
  refine ⟨h.books, ?_, ?_, ?_⟩
  · intro i m
    have other : i.connection.id ≠ id := apart _ (List.mem_map_of_mem m) _ List.mem_cons_self
    show _ ∧ (Function.update w.peers id peer i.connection.id).Quiet
    rw [Function.update_of_ne other]
    exact h.quiet i m
  · intro n le
    have other : n ≠ id := (Nat.lt_of_lt_of_le known le).ne'
    show Function.update w.peers id peer n = {}
    rw [Function.update_of_ne other]
    exact h.unused n le
  · intro other ne call here
    apply (h.calls other ne call here).grows (Peer.grows_update grows)
    intro g m
    have among : call ∈ w.client.calls.eraseIdx number :=
      List.mem_eraseIdx_iff_getElem?.2 ⟨other, ne, here⟩
    apply Function.update_of_ne
    rintro rfl
    exact fresh (List.mem_map_of_mem (List.mem_flatMap.2 ⟨call, among, m⟩))

/-- What holds besides a call holds over a pool whose books go on and whose idle connections are
quiet. -/
lemma Rest.withPool (h : w.Rest limit number own opening) {p : Pool}
    (books : Books limit p (own' ++ (w.client.calls.eraseIdx number).flatMap Call.guards)
      (opening' ++ (w.client.calls.eraseIdx number).flatMap Call.reserved))
    (quiet : ∀ i ∈ p.available, i ∈ w.client.pool.available ∨
      i.connection.InStep ∧ (w.peers i.connection.id).Quiet)
    (next : w.client.pool.nextConnection ≤ p.nextConnection) :
    (w.withPool p).Rest limit number own' opening' :=
  ⟨books, fun i m => (quiet i m).elim (h.quiet i) id, fun n le => h.unused n (next.trans le),
    h.calls⟩

/-- An idle connection is taken for the call; it is in step, and its peer is quiet. -/
lemma Rest.takeIdle (h : w.Rest limit number [] []) {pooled : Pooled} {p : Pool}
    (e : w.client.pool.takeIdle = .ok (some (pooled, p))) :
    (w.withPool p).Rest limit number [(pooled.connection.id, pooled.slot)] [] ∧
      pooled.connection.InStep ∧ (w.peers pooled.connection.id).Quiet := by
  obtain ⟨available, next⟩ := Pool.takeIdle_eq_some e
  refine ⟨h.withPool (h.books.takeIdle e) (fun i m => .inl ?_) next.ge, h.quiet pooled ?_⟩
  · rw [available]
    exact List.mem_cons_of_mem _ m
  · rw [available]
    exact List.mem_cons_self

/-- Room is reserved for a call that holds nothing. -/
lemma Rest.reserve (h : w.Rest limit number [] []) {r : Reservation} {p : Pool}
    (e : w.client.pool.reserve? = some (r, p)) :
    (w.withPool p).Rest limit number [] [r.slot] := by
  have books := h.books.reserve e
  obtain ⟨_, _, _, _, _, _, _, rfl⟩ := Pool.reserve?_eq_some e
  exact h.withPool books (fun i m => .inl m) le_rfl

/-- The reservation of a call is given up. -/
lemma Rest.release {r : Reservation} (h : w.Rest limit number [] [r.slot]) :
    (w.withPool (w.client.pool.release r)).Rest limit number [] [] :=
  h.withPool h.books.release (fun _ m => .inl m) le_rfl

/-- The connection that was reserved for the call is open; its peer is new. -/
lemma Rest.connected {r : Reservation} (h : w.Rest limit number [] [r.slot]) (address : Address) :
    (w.withPool (w.client.pool.connected r address).2).Rest limit number
        [(w.client.pool.nextConnection, r.slot)] [] ∧
      (w.peers w.client.pool.nextConnection).Quiet := by
  refine ⟨h.withPool (h.books.connected address) (fun _ m => .inl m) (Nat.le_succ _), ?_⟩
  rw [h.unused _ le_rfl]
  exact ⟨rfl, rfl⟩

/-- The call gives its connection back, with a quiet peer if it can be used. -/
lemma Rest.giveBack {connection : Connection} {slot : Nat}
    (h : w.Rest limit number [(connection.id, slot)] [])
    (fine : connection.isUsable = true → connection.InStep ∧ (w.peers connection.id).Quiet) :
    (w.withPool (w.client.pool.giveBack { slot, connection })).Rest limit number [] [] := by
  obtain ⟨available, next⟩ := w.client.pool.giveBack_available { slot, connection }
  have books := h.books
  change Books _ _ ((({ slot, connection } : Pooled).connection.id, _) :: _) _ at books
  refine h.withPool books.giveBack (fun i m => ?_) next.ge
  rcases available i m with old | ⟨rfl, usable⟩
  · exact .inl old
  · exact .inr (fine usable)

end Rest

/-! ### Turns -/

section turn

variable {limit number slot : Nat} {w : World} {request : Request} {delivery : Delivery}
  {turn : Turn} {t : Traffic} {heard : List Event}

/-- A turn of an exchange makes of the call what it should, and gives its connection back if it has
ended. -/
lemma Rest.ofTurn (h : w.Rest limit number [(turn.connection.id, slot)] [])
    (sound : turn.Sound (.ofRequest request delivery) t (heard ++ turn.events))
    (link : (w.peers turn.connection.id).Linked number request.encode.frame t)
    {stage : Call.Stage} {events : List Event} {back : Option Pooled}
    (e : Call.ofTurn slot turn = (stage, events, back)) :
    let call : Call := { request, delivery, stage, events := heard ++ events }
    call.Sound w.peers number ∧
      (w.withPool (back.elim w.client.pool w.client.pool.giveBack)).Rest limit number
        call.guards call.reserved := by
  unfold Call.ofTurn at e
  unfold Turn.Sound at sound
  unfold Turn.connection at h link
  cases progress : turn.progress with
  | waiting x =>
    rw [progress] at e sound h link
    cases e
    exact ⟨.exchanging sound link, h⟩
  | ended ended =>
    rw [progress] at e sound h link
    cases e
    rw [Operation.abandon_of_isTerminal sound.settled, List.append_nil]
    refine ⟨.ended (sound.result rfl) fun outcome => ?_, ?_⟩
    · obtain ⟨answer, made, told⟩ := link.produced sound outcome
      exact ⟨answer, ⟨_, made⟩, told⟩
    · exact h.giveBack fun usable => ⟨sound.inStep usable, link.quiet sound usable⟩

end turn

end World

end StoreClient
