import Mathlib
import StoreClient.Proofs.World

/-!
# No cross-talk

Whatever happens in a world, it stays sound (`World.Sound.step`), and so it does in any number of
steps (`World.Sound.reaches`). A call that has ended with an answer of a peer was given the answer that
was produced for its own request, every fragment of it and no other (`no_cross_talk`).
-/

namespace StoreClient

open Operation (Event)
open Exchange (Turn)
open Pool (Pooled)

namespace World

variable {limit number : Nat} {w : World} {call : Call}

/-! ### Calls

A world stays sound whatever happens: there is one lemma for each thing that may. An input that the
call does not wait for changes nothing. -/

/-- The first turn of a call is as it should be over a connection that is in step, with a quiet
peer. -/
lemma firstTurn_sound {peers : Nat → Peer} {pooled : Pooled} (request : Request)
    (delivery : Delivery) (inStep : pooled.connection.InStep)
    (quiet : (peers pooled.connection.id).Quiet) :
    let turn := Call.firstTurn request delivery pooled
    turn.connection.id = pooled.connection.id ∧
      turn.Sound (.ofRequest request delivery) [] ([] ++ turn.events) ∧
      (peers turn.connection.id).Linked number request.encode.frame [] := by
  have same : (Call.firstTurn request delivery pooled).connection.id = pooled.connection.id :=
    Exchange.start_id ..
  have att := (Operation.told_ofRequest request delivery).attended
  refine ⟨same, Exchange.start_sound att fun _ => inStep, ?_⟩
  rw [same]
  exact quiet.linked

/-- A call goes on with a turn of its exchange. -/
lemma Rest.advance {slot : Nat} {turn : Turn} {t : Traffic}
    (h : w.Rest limit number [(turn.connection.id, slot)] [])
    (inside : number < w.client.calls.length)
    (sound : turn.Sound (.ofRequest call.request call.delivery) t (call.events ++ turn.events))
    (link : (w.peers turn.connection.id).Linked number call.request.encode.frame t) :
    Sound limit { w with client := w.client.advance number call slot turn } := by
  unfold Client.advance
  generalize e : Call.ofTurn slot turn = made
  obtain ⟨stage, events, back⟩ := made
  obtain ⟨fine, rest⟩ := h.ofTurn sound link e
  exact rest.set inside rfl rfl fine

/-- A call is made: it is refused, or has room reserved for it, or begins at once. -/
lemma Sound.made (h : w.Sound limit) (request : Request) (delivery : Delivery) :
    (w.happen (.made request delivery)).Sound limit := by
  have rest := h.restNew
  have begun := w.client.pool.checkOut_begun
  show Sound limit { w with client := w.client.make request delivery }
  unfold Client.make
  generalize w.client.pool.checkOut = checkout at begun
  cases begun with
  | refused => exact rest.snoc rfl rfl (.unserved rfl)
  | connecting reserved => exact (rest.reserve reserved).snoc rfl rfl .connecting
  | @ready idle pool taken =>
    obtain ⟨rest', inStep, quiet⟩ := rest.takeIdle taken
    obtain ⟨same, sound, link⟩ := firstTurn_sound request delivery inStep quiet
    rw [← same] at rest'
    dsimp only
    generalize e : Call.ofTurn idle.slot (Call.firstTurn request delivery idle) = made
    obtain ⟨stage, events, back⟩ := made
    obtain ⟨fine, rest''⟩ := rest'.ofTurn sound link e
    exact rest''.snoc rfl rfl fine

/-- A byte stream is opened for a call, and the call begins over a new connection. -/
lemma Sound.connected (h : w.Sound limit) (number : Nat) (address : Address) :
    (w.happen (.connected number (.ok address))).Sound limit := by
  simp only [happen, Client.step]
  cases here : w.client.calls[number]? with
  | none => exact h
  | some call =>
    have rest := h.rest here
    cases h.calls number call here with
    | @connecting request delivery r =>
      obtain ⟨rest', quiet⟩ := rest.connected address
      have fresh : (w.client.pool.connected r address).1.connection.InStep := ⟨rfl, rfl, rfl⟩
      obtain ⟨same, sound, link⟩ := firstTurn_sound request delivery fresh quiet
      change Rest _ _ _ [((w.client.pool.connected r address).1.connection.id, _)] _ at rest'
      rw [← same] at rest'
      exact rest'.advance (List.getElem?_eq_some_iff.1 here).1 sound link
    | exchanging _ _ | unserved _ | ended _ _ | dropped _ => exact h

/-- No byte stream can be opened for a call, and its reservation is released. -/
lemma Sound.unconnected (h : w.Sound limit) (number : Nat) {fault : Fault}
    (own : fault.serverError? = none) :
    (w.happen (.connected number (.error fault))).Sound limit := by
  simp only [happen, Client.step]
  cases here : w.client.calls[number]? with
  | none => exact h
  | some call =>
    have rest := h.rest here
    cases h.calls number call here with
    | connecting =>
      exact rest.release.set (List.getElem?_eq_some_iff.1 here).1 rfl rfl (.unserved own)
    | exchanging _ _ | unserved _ | ended _ _ | dropped _ => exact h

/-- The transport answers a call, and its exchange goes on. -/
lemma Sound.completed (h : w.Sound limit) (here : w.client.calls[number]? = some call) {slot : Nat}
    {x : Exchange} (stage : call.stage = .exchanging slot x) {completion : Completion} {peer : Peer}
    (c : (w.peers x.connection.id).Completes number x.await completion peer) :
    Sound limit
      { client := w.client.step (.completed number completion)
        peers := Function.update w.peers x.connection.id peer } := by
  have rest := h.rest here
  simp only [Client.step, here, stage]
  cases h.calls number call here with
  | exchanging u link =>
    cases stage
    have same := x.resume_id completion
    apply Rest.advance (w := { w with peers := Function.update w.peers x.connection.id peer })
      _ (List.getElem?_eq_some_iff.1 here).1 (u.resume completion)
    · show (Function.update w.peers x.connection.id peer _).Linked number _ _
      rw [same, Function.update_self]
      exact link.completes u c
    · rw [same]
      exact rest.peer c.grows
  | connecting | unserved _ | ended _ _ | dropped _ => cases stage

/-- The deadline of a call passes, and its connection is broken. -/
lemma Sound.expired (h : w.Sound limit) (number : Nat) :
    (w.happen (.expired number)).Sound limit := by
  simp only [happen, Client.step]
  cases here : w.client.calls[number]? with
  | none => exact h
  | some call =>
    have rest := h.rest here
    cases h.calls number call here with
    | @exchanging request delivery slot x events t u link =>
      -- Whatever the peer still has to say stays behind a connection that is broken.
      have same : x.expire.connection.id = x.connection.id := Exchange.finish_id ..
      have link' := link.cutOff x.await
      rw [← same] at link'
      change Rest _ _ _ [(x.connection.id, slot)] _ at rest
      rw [← same] at rest
      exact rest.advance (List.getElem?_eq_some_iff.1 here).1 u.expire link'
    | connecting | unserved _ | ended _ _ | dropped _ => exact h

/-- A call is cancelled, and its connection is not kept. -/
lemma Sound.cancelled (h : w.Sound limit) (number : Nat) :
    (w.happen (.cancelled number)).Sound limit := by
  simp only [happen, Client.step]
  cases here : w.client.calls[number]? with
  | none => exact h
  | some call =>
    have rest := h.rest here
    have inside := (List.getElem?_eq_some_iff.1 here).1
    cases h.calls number call here with
    | connecting => exact rest.release.set inside rfl rfl (.dropped (by simp))
    | @exchanging request delivery slot x events t u link =>
      -- The connection is in flight, so that it is not kept.
      have lost : x.connection.isUsable = false := by simp [Connection.isUsable, u.inFlight]
      have back := Rest.giveBack rest fun usable => absurd usable (by simp [lost])
      apply back.set inside rfl rfl (.dropped _)
      intro e m
      rw [u.awaiting.abandon] at m
      rcases List.mem_append.1 m with old | new
      · exact Peer.not_isAnswer_of_underway u e old
      · cases List.mem_singleton.1 new
        exact Bool.false_ne_true
    | unserved _ | ended _ _ | dropped _ => exact h

/-- The pool loses idle connections at most. -/
lemma Sound.withPool (h : w.Sound limit) {pool : Pool}
    (books : Pool.Books limit pool (w.client.calls.flatMap Call.guards)
      (w.client.calls.flatMap Call.reserved))
    (fewer : ∀ i ∈ pool.available, i ∈ w.client.pool.available)
    (next : pool.nextConnection = w.client.pool.nextConnection) :
    (w.withPool pool).Sound limit := by
  refine ⟨books, fun i m => h.quiet i (fewer i m), fun n le => h.unused n ?_, h.calls⟩
  exact next ▸ le

/-- The pool is closed. -/
lemma Sound.closed (h : w.Sound limit) : (w.happen .closed).Sound limit :=
  h.withPool h.books.close (by simp [Pool.close]) rfl

/-- A host is added to the pool. -/
lemma Sound.hostAdded (h : w.Sound limit) {config : HostConfig} {pool : Pool}
    (e : w.client.pool.addHost config = .ok pool) : (w.withPool pool).Sound limit := by
  obtain ⟨available, next⟩ := Pool.addHost_available e
  exact h.withPool (h.books.addHost e) (by simp [available]) next

/-- A host is removed from the pool. -/
lemma Sound.hostRemoved (h : w.Sound limit) {id : HostId} {pool : Pool}
    (e : w.client.pool.removeHost id = .ok pool) : (w.withPool pool).Sound limit := by
  obtain ⟨fewer, next⟩ := Pool.removeHost_available e
  exact h.withPool (h.books.removeHost e) fewer next

/-! ### Peers -/

/-- A peer answers a request, which is none of an idle connection. -/
lemma Sound.answered (h : w.Sound limit) {n : Nat} {s : Served} (may : (w.peers n).May s) :
    Sound limit { w with peers := Function.update w.peers n ((w.peers n).answer s) } := by
  refine ⟨h.books, ?_, ?_, fun number call here => (h.calls number call here).answered may⟩
  · intro i m
    obtain ⟨inStep, quiet⟩ := h.quiet i m
    -- The peer of an idle connection has answered everything.
    have other : i.connection.id ≠ n := by
      rintro rfl
      exact may.not_taken quiet.taken
    refine ⟨inStep, ?_⟩
    show (Function.update w.peers n _ i.connection.id).Quiet
    rw [Function.update_of_ne other]
    exact quiet
  · intro m le
    have other : m ≠ n := by
      rintro rfl
      apply may.not_taken
      rw [h.unused m le]
      rfl
    show Function.update w.peers n _ m = {}
    rw [Function.update_of_ne other]
    exact h.unused m le

/-! ### Runs -/

/-- Whatever happens, a world stays sound. -/
lemma Sound.step {w' : World} (h : w.Sound limit) (st : Step w w') : w'.Sound limit := by
  cases st with
  | made request delivery => exact h.made request delivery
  | connected number address => exact h.connected number address
  | unconnected number own => exact h.unconnected number own
  | completed number here stage c => exact h.completed here stage c
  | expired number => exact h.expired number
  | cancelled number => exact h.cancelled number
  | closed => exact h.closed
  | hostAdded e => exact h.hostAdded e
  | hostRemoved e => exact h.hostRemoved e
  | answered n may => exact h.answered may

/-- A world stays sound in any number of steps. -/
lemma Sound.reaches {w' : World} (h : w.Sound limit) (reach : Reaches w w') : w'.Sound limit := by
  induction reach with
  | refl => exact h
  | tail _ st ih => exact ih.step st

section start

variable {σ : Type} {dial : Nat → HostId → StateT σ Option (Except Fault Address)} {s s' : σ}
  {config : Config} {pool : Pool}

/-- A client over a pool that was built begins in a sound world. -/
lemma sound_start (built : Pool.build dial config s = some (.ok pool, s'))
    (timeout : Option UInt64) : (start pool timeout).Sound config.maxTotal.toNat := by
  refine ⟨Pool.books_build built, fun i m => ?_, fun _ _ => rfl, by simp [start]⟩
  exact ⟨Pool.inStep_build built i m, rfl, rfl⟩

end start

end World

namespace Call

/-- What events give that tell of no end of an answer. -/
lemma outcome_of_not_isAnswer {events : List Event} (silent : ∀ e ∈ events, ¬ e.IsAnswer) :
    ∃ fault, outcome events = .error fault ∧ fault.serverError? = none := by
  unfold outcome
  split
  · rename_i r done found
    have last : done = true := by simpa [Event.isTerminal] using List.find?_some found
    exact absurd last (silent _ (List.mem_of_find?_eq_some found))
  · rename_i fault found
    refine ⟨fault, rfl, ?_⟩
    simpa [Event.IsAnswer] using silent _ (List.mem_of_find?_eq_some found)
  · exact ⟨_, rfl, rfl⟩

/-- A call whose listener has heard of no end of an answer, and who waits for it was given none, has
not ended with one. -/
lemma not_answered {c : Call} (silent : ∀ e ∈ c.told, ¬ e.IsAnswer)
    (given : ∀ g, c.answer? = some g → ∃ fault, g = .error fault ∧ fault.serverError? = none) :
    ¬ c.Answered := by
  rintro (⟨e, m, isAnswer⟩ | ⟨r, ok⟩ | ⟨e, error⟩)
  · exact silent e m isAnswer
  · obtain ⟨fault, same, _⟩ := given _ ok
    cases same
  · obtain ⟨fault, same, own⟩ := given _ error
    cases same
    cases own

/-- A call that has ended with an answer was given the answer to its request. -/
lemma Sound.own_answer {peers : Nat → Peer} {number : Nat} {call : Call}
    (h : call.Sound peers number) (answered : call.Answered) :
    ∃ answer,
      (∃ n, (peers n).Produced number call.request.encode.frame answer) ∧
        answer.Told call.delivery call.told ∧
        ∀ given, call.answer? = some given → given = outcome call.told := by
  cases h with
  | connecting =>
    apply absurd answered (not_answered _ _)
    · simp [told]
    · intro g e
      cases e
  | exchanging u link =>
    apply absurd answered (not_answered (Peer.not_isAnswer_of_underway u) _)
    intro g e
    cases e
  | dropped silent =>
    apply absurd answered (not_answered silent _)
    intro g e
    cases e
  | @unserved request delivery fault events own =>
    apply absurd answered (not_answered _ _)
    · intro e m
      cases List.mem_singleton.1 m
      simp [Event.IsAnswer, own]
    · intro g e
      exact ⟨fault, (Option.some.inj e).symm, own⟩
  | @ended request delivery result events fine produced =>
    cases result with
    | error fault => exact absurd rfl (fine fault)
    | ok state =>
      have heard : ∃ e ∈ events, e.IsAnswer := by
        by_contra silent
        push Not at silent
        apply absurd answered (not_answered silent _)
        intro g e
        cases Option.some.inj e
        exact outcome_of_not_isAnswer silent
      obtain ⟨answer, made, told⟩ := produced heard
      refine ⟨answer, made, told, fun given e => ?_⟩
      exact (Option.some.inj e).symm

end Call

/-- Whatever happens to a client and its peers, a call that has ended with an answer was given the
answer that a peer has produced for the request of this call: its listener was told of every fragment
of this answer in order, or of the whole that has the elements of all of them in order, and of
nothing else, and who waits for the answer is given what the listener was told. -/
theorem no_cross_talk {σ : Type} {dial : Nat → HostId → StateT σ Option (Except Fault Address)}
    {s s' : σ} {config : Config} {pool : Pool}
    (built : Pool.build dial config s = some (.ok pool, s')) (timeout : Option UInt64) {w : World}
    (reach : (World.start pool timeout).Reaches w) {number : Nat} {call : Call}
    (here : w.client.calls[number]? = some call) (answered : call.Answered) :
    ∃ answer,
      w.Produced number call.request.encode.frame answer ∧
        answer.Told call.delivery call.told ∧
        ∀ given, call.answer? = some given → given = Call.outcome call.told := by
  have sound := (World.sound_start built timeout).reaches reach
  exact (sound.calls number call here).own_answer answered

/-- The address of a host on this machine. -/
def home : Address := ⟨.v4 .loopback, Config.defaultPort⟩

/-- A pool for the default configuration. -/
def homePool : Pool where
  maxTotal := 16
  opening := {}
  slots := [{ key := 0, config := { host := "127.0.0.1", port := 8087 } }]
  nextKey := 1

/-- A sign of life. -/
def pong : Served where
  request := Request.ping.encode.frame
  answer := { ending := .ok .pong }
  frames := [{ tag := Tag.pingResp.byte, payload := [] }]

/-- A peer that has taken such a request behind others that it has answered may answer so. -/
lemma may_pong {p : Peer}
    (complete : Peer.requests p.served ++ pong.request.bytes <+: p.received.map Prod.snd) :
    p.May pong :=
  ⟨by decide, complete, .ping, rfl, by decide, rfl⟩

/-- A client whose only call was cancelled when its request was out. -/
def cancelled : Client where
  pool := { homePool with nextConnection := 2 }
  calls :=
    [{ request := .ping
       delivery := .merged
       stage := .dropped
       events := [.fault .connectionClosed] }]

/-- A call that was given a sign of life. -/
def ponged : Call where
  request := .ping
  delivery := .merged
  stage := .ended (.ok .done)
  events := [.response .pong true]

/-- A call is cancelled when its request is out, and its peer answers nevertheless. The next call
opens a connection of its own and is given the answer to its own request. -/
theorem no_cross_talk_cancelled :
    Pool.build (fun _ _ => pure (.ok home) : Nat → HostId → StateT Unit Option _) {} () =
        some (.ok homePool, ()) ∧
      ∃ w,
        (World.start homePool none).Reaches w ∧ w.client.calls[1]? = some ponged ∧
          ponged.Answered ∧
          ∃ answer,
            w.Produced 1 ponged.request.encode.frame answer ∧
              answer.Told .merged ponged.told ∧
              ∀ given, ponged.answer? = some given → given = Call.outcome ponged.told := by
  have built : Pool.build (fun _ _ => pure (.ok home) : Nat → HostId → StateT Unit Option _) {} () =
      some (.ok homePool, ()) := by rfl
  refine ⟨built, ?_⟩
  have run : (World.start homePool none).Reaches _ := .refl
  have run := run.tail (.made .ping .merged)
  have run := run.tail (.connected 0 home)
  have run := run.tail (.completed 0 rfl rfl (.wrote _ 5))
  have run := run.tail (.completed 0 rfl rfl .flushed)
  have run := run.tail (.cancelled 0)
  have run : (World.start homePool none).Reaches ⟨cancelled, _⟩ := run
  have run := run.tail (.answered 1 (may_pong ⟨[], rfl⟩))
  have run := run.tail (.made .ping .merged)
  have run := run.tail (.connected 1 home)
  have run := run.tail (.completed 1 rfl rfl (.wrote _ 5))
  have run := run.tail (.completed 1 rfl rfl .flushed)
  have run := run.tail (.answered 2 (may_pong ⟨[], rfl⟩))
  have run := run.tail (.completed 1 rfl rfl
    (.received (pong.frames.flatMap Frame.bytes) [] (by decide) rfl))
  have run : (World.start homePool none).Reaches ⟨{ pool := _, calls := [_, ponged] }, _⟩ := run
  have answered : ponged.Answered := .inr (.inl ⟨.pong, rfl⟩)
  exact ⟨_, run, rfl, answered, no_cross_talk built none run rfl answered⟩

end StoreClient
