import Mathlib
import StoreClient.Client.Typed
import StoreClient.Proofs.Outcome

/-!
# Faults that never come

Some faults tell of misuse: that an operation was bound twice or had ended before, that it was not
sent, that a connection was out of step or a response of another kind. A client does not misuse its
operations and connections, whatever its servers send and however its calls come by turns
(`Client.Moves`).

While that goes on (`Client.Ready`) every idle connection can be used and shows no input, and every
call is in order. The headline is `no_misuse`.
-/

namespace StoreClient

open Operation (Event)
open Exchange (Turn)
open Pool (Pooled)

/-- A fault that tells of misuse. -/
def Fault.IsMisuse (f : Fault) : Prop :=
  f.kind = .unexpectedResponse ∨ f.kind = .binding ∨ f.kind = .alreadyCompleted ∨
    f.kind = .uninitialized

namespace Fault

/-- A fault of the transfer tells of no misuse. -/
lemma IsTransfer.not_isMisuse {f : Fault} (h : f.IsTransfer) : ¬ f.IsMisuse := by
  obtain ⟨fatal, other⟩ := h
  cases f <;> simp_all [IsMisuse, kind, isFatal]

/-- A call that could not be served tells of no misuse. -/
lemma IsUnserved.not_isMisuse {f : Fault} (h : f.IsUnserved) : ¬ f.IsMisuse := by
  unfold IsMisuse
  rcases h with e | e | e <;> simp [e]

end Fault

/-- A connection that is fit to be given to a call. -/
structure Connection.Fit (c : Connection) : Prop where
  reachable : c.Reachable
  usable : c.isUsable = true
  unbuffered : c.hasBufferedInput = false

/-- A connection that is fit can be offered to any operation. -/
lemma Connection.Fit.offered {c : Connection} (h : c.Fit) (P : Fault → Prop) : c.Offered P := by
  refine ⟨h.reachable, fun lost => ?_, fun _ stale => ?_⟩
  · rw [h.usable] at lost
    cases lost
  · rw [h.unbuffered] at stale
    cases stale

/-- A connection that has just been opened is fit. -/
lemma Connection.fit_opened (p : Pool) (r : Pool.Reservation) (address : Address) :
    (p.connected r address).1.connection.Fit :=
  ⟨.addressed address (.opened _ _ _), rfl, rfl⟩

namespace Client

/-- What may happen to a client. The transport and the peers behind it may answer anything; where no
byte stream can be opened, the host has no address or cannot be connected to. -/
inductive Moves (c : Client) : Client → Prop where
  | input (input : Input) :
    (∀ number fault, input = .connected number (.error fault) →
      fault.kind = .unresolved ∨ fault.kind = .connect) →
    Moves c (c.step input)
  | hostAdded {config pool} :
    c.pool.addHost config = .ok pool →
    Moves c { c with pool }
  | hostRemoved {id pool} :
    c.pool.removeHost id = .ok pool →
    Moves c { c with pool }

/-- What holds of a client at any time. -/
structure Ready (c : Client) : Prop where
  idle : ∀ i ∈ c.pool.available, i.connection.Fit
  calls : ∀ (number : Nat) (call : Call),
    c.calls[number]? = some call → call.InOrder Fault.IsTransfer Fault.IsUnserved

section Ready

variable {c : Client} {number : Nat} {call : Call}

/-- A connection that comes back is kept only if it is fit. -/
lemma idle_giveBack {p : Pool} (idle : ∀ i ∈ p.available, i.connection.Fit) {back : Option Pooled}
    (fine : ∀ i ∈ back, i.connection.Reachable ∧
      (i.connection.isUsable = true → i.connection.hasBufferedInput = false)) :
    ∀ i ∈ (back.elim p p.giveBack).available, i.connection.Fit := by
  cases back with
  | none => exact idle
  | some pooled =>
    intro i m
    rcases (p.giveBack_available pooled).1 i m with old | ⟨rfl, usable⟩
    · exact idle i old
    · obtain ⟨reach, unbuffered⟩ := fine i rfl
      exact ⟨reach, usable, unbuffered usable⟩

/-- A connection is given back after a turn only if it is fit. -/
lemma idle_advance (idle : ∀ i ∈ c.pool.available, i.connection.Fit) {turn : Turn}
    (reach : turn.connection.Reachable)
    (h : turn.Conducts Fault.IsTransfer (.ofRequest call.request call.delivery)
      (call.events ++ turn.events)) (number slot : Nat) :
    ∀ i ∈ (c.advance number call slot turn).pool.available, i.connection.Fit := by
  unfold Client.advance
  generalize e : Call.ofTurn slot turn = made
  obtain ⟨stage, events, back⟩ := made
  exact idle_giveBack idle (Call.inOrder_ofTurn (U := Fault.IsUnserved) reach h e).2

/-- Idle connections stay fit when a call is made. -/
lemma Ready.idle_make (h : c.Ready) (request : Request) (delivery : Delivery) :
    ∀ i ∈ (c.make request delivery).pool.available, i.connection.Fit := by
  have begun := c.pool.checkOut_begun
  unfold Client.make
  generalize c.pool.checkOut = checkout at begun
  cases begun with
  | refused => exact h.idle
  | connecting reserved =>
    obtain ⟨_, _, _, _, _, _, _, rfl⟩ := Pool.reserve?_eq_some reserved
    exact h.idle
  | @ready idle pool taken =>
    have available := (Pool.takeIdle_eq_some taken).1
    have rest : ∀ i ∈ pool.available, i.connection.Fit := fun i m =>
      h.idle i (available ▸ List.mem_cons_of_mem _ m)
    have fit := h.idle idle (available ▸ List.mem_cons_self)
    obtain ⟨reach, conducts⟩ :=
      firstTurn_conducts (fun _ t => t) (fit.offered Fault.IsTransfer) request delivery
    dsimp only
    generalize e : Call.ofTurn idle.slot (Call.firstTurn request delivery idle) = made
    obtain ⟨stage, events, back⟩ := made
    exact idle_giveBack rest (Call.inOrder_ofTurn (U := Fault.IsUnserved) reach conducts e).2

/-- Idle connections stay fit, whatever happens. -/
lemma Ready.idle_step (h : c.Ready) (input : Input) :
    ∀ i ∈ (c.step input).pool.available, i.connection.Fit := by
  cases input with
  | made request delivery => exact h.idle_make request delivery
  | closed => exact List.forall_mem_nil _
  | connected m result =>
    simp only [Client.step]
    cases here : c.calls[m]? with
    | none => exact h.idle
    | some call =>
      cases h.calls m call here with
      | @connecting request delivery r =>
        cases result with
        | error fault => exact h.idle
        | ok address =>
          have fit := Connection.fit_opened c.pool r address
          obtain ⟨reach, conducts⟩ :=
            firstTurn_conducts (fun _ t => t) (fit.offered Fault.IsTransfer) request delivery
          exact idle_advance (c := { c with pool := (c.pool.connected r address).2 }) h.idle reach
            conducts _ _
      | exchanging _ _ | unserved _ | ended _ _ | dropped _ => exact h.idle
  | completed m completion =>
    simp only [Client.step]
    cases here : c.calls[m]? with
    | none => exact h.idle
    | some call =>
      cases h.calls m call here with
      | exchanging reach carrying =>
        exact idle_advance h.idle (.resumed completion reach)
          (carrying.resume (fun _ t => t) completion) _ _
      | connecting | unserved _ | ended _ _ | dropped _ => exact h.idle
  | expired m =>
    simp only [Client.step]
    cases here : c.calls[m]? with
    | none => exact h.idle
    | some call =>
      cases h.calls m call here with
      | exchanging reach carrying =>
        exact idle_advance h.idle (.expired reach) (carrying.expire fun _ t => t) _ _
      | connecting | unserved _ | ended _ _ | dropped _ => exact h.idle
  | cancelled m =>
    simp only [Client.step]
    cases here : c.calls[m]? with
    | none => exact h.idle
    | some call =>
      cases h.calls m call here with
      | connecting => exact h.idle
      | @exchanging request delivery slot x events reach carrying =>
        -- The connection is in flight, so that it is not kept.
        have lost : x.connection.isUsable = false := by
          simp [Connection.isUsable, carrying.inFlight]
        have fine : ∀ i ∈ some ({ slot, connection := x.connection } : Pooled),
            i.connection.Reachable ∧
              (i.connection.isUsable = true → i.connection.hasBufferedInput = false) := by
          rintro _ ⟨⟩
          exact ⟨reach, fun usable => absurd usable (by simp [lost])⟩
        exact idle_giveBack h.idle fine
      | unserved _ | ended _ _ | dropped _ => exact h.idle

/-- Only one that is made is a new call. -/
lemma made_of_step {input : Input} (before : c.calls[number]? = none)
    (here : (c.step input).calls[number]? = some call) :
    number = c.calls.length ∧ ∃ request delivery, input = .made request delivery := by
  have behind := List.getElem?_eq_none_iff.1 before
  have inside := (List.getElem?_eq_some_iff.1 here).1
  cases own : input.number? with
  | none =>
    cases input with
    | made request delivery =>
      have length : (c.make request delivery).calls.length = c.calls.length + 1 :=
        List.length_append
      change number < (c.make request delivery).calls.length at inside
      exact ⟨by omega, request, delivery, rfl⟩
    | closed => exact absurd inside (by simpa [Client.step] using behind)
    | connected _ _ | completed _ _ | expired _ | cancelled _ => cases own
  | some m =>
    rcases c.calls_step own with same | ⟨call', set⟩
    · rw [same] at inside
      omega
    · rw [set, List.length_set] at inside
      omega

/-- Calls stay in order, whatever happens. -/
lemma Ready.calls_step (h : c.Ready) {input : Input}
    (unopened : ∀ m fault, input = .connected m (.error fault) →
      fault.kind = .unresolved ∨ fault.kind = .connect)
    (here : (c.step input).calls[number]? = some call) :
    call.InOrder Fault.IsTransfer Fault.IsUnserved := by
  obtain ⟨request, delivery, call', here', _, _, ok⟩ :
      ∃ request delivery, (c.step input).Serves Fault.IsTransfer Fault.IsUnserved number request
        delivery := by
    cases before : c.calls[number]? with
    | some old =>
      have serves : c.Serves Fault.IsTransfer Fault.IsUnserved number old.request old.delivery :=
        ⟨old, before, rfl, rfl, h.calls number old before⟩
      exact ⟨_, _, serves.step (fun _ t => t) fun m fault e => .inr (unopened m fault e)⟩
    | none =>
      obtain ⟨rfl, request, delivery, rfl⟩ := made_of_step before here
      exact ⟨request, delivery, serves_make (fun _ t => t)
        (fun i m => (h.idle i m).offered _) (.inl rfl) request delivery⟩
  obtain rfl := Option.some.inj (here.symm.trans here')
  exact ok

/-- A client stays ready whatever happens. -/
lemma Ready.moves {c' : Client} (h : c.Ready) (mv : Moves c c') : c'.Ready := by
  cases mv with
  | input input unopened => exact ⟨h.idle_step input, fun _ _ here => h.calls_step unopened here⟩
  | hostAdded e =>
    refine ⟨?_, h.calls⟩
    rw [(Pool.addHost_available e).1]
    exact h.idle
  | hostRemoved e => exact ⟨fun i m => h.idle i ((Pool.removeHost_available e).1 i m), h.calls⟩

/-- What holds of a client at any time holds after any moves. -/
lemma Ready.reaches {c' : Client} (h : c.Ready) (reach : Relation.ReflTransGen Moves c c') :
    c'.Ready := by
  induction reach with
  | refl => exact h
  | tail _ mv ih => exact ih.moves mv

end Ready

end Client

/-! ### Answers -/

namespace TypedCall

/-- The typed calls that there are. -/
inductive Listed : {α : Type} → TypedCall α → Prop where
  | ping : Listed ping
  | serverInfo : Listed serverInfo
  | getClientId : Listed getClientId
  | setClientId (clientId : Bytes) : Listed (setClientId clientId)
  | get (bucket key : Bytes) : Listed (get bucket key)
  | put (bucket key value : Bytes) : Listed (put bucket key value)
  | delete (bucket key : Bytes) : Listed (delete bucket key)
  | listBuckets : Listed listBuckets
  | listKeys (bucket : Bytes) : Listed (listKeys bucket)
  | indexQuery (query : IndexReq) : Listed (indexQuery query)
  | mapReduce (job contentType : Bytes) : Listed (mapReduce job contentType)
  | search (index query : Bytes) : Listed (search index query)
  | getBucketProps (bucket : Bytes) : Listed (getBucketProps bucket)
  | setBucketProps (bucket : Bytes) (props : BucketProps) : Listed (setBucketProps bucket props)
  | resetBucketProps (bucket : Bytes) : Listed (resetBucketProps bucket)
  | counterUpdate (bucket key : Bytes) (amount : Int64) : Listed (counterUpdate bucket key amount)
  | counterGet (bucket key : Bytes) : Listed (counterGet bucket key)

/-- A typed call reads every answer of the kind of its request. -/
lemma Listed.exists_read? {α : Type} {t : TypedCall α} (listed : t.Listed) {r : Response}
    (admits : t.request.responseKind.Admits r) : ∃ value, t.read? r = some value := by
  cases listed <;> cases admits <;> exact ⟨_, rfl⟩

end TypedCall

/-- What a call tells and gives: responses of its kind, and no faults of misuse. -/
structure Call.Blameless (c : Call) : Prop where
  responses : ∀ r done, .response r done ∈ c.told → c.request.responseKind.Admits r
  faults : ∀ fault, .fault fault ∈ c.told → ¬ fault.IsMisuse
  result : ∀ fault, c.result? = some (.error fault) → ¬ fault.IsMisuse
  answer : ∀ r, c.answer? = some (.ok r) → c.request.responseKind.Admits r
  refusal : ∀ fault, c.answer? = some (.error fault) → ¬ fault.IsMisuse
  typed : ∀ {α : Type} (t : TypedCall α), t.Listed → t.request = c.request →
    ∀ given, c.answer? = some given →
      (∃ value, t.read given = .ok value) ∨ ∃ fault, t.read given = .error fault ∧ ¬ fault.IsMisuse

namespace Call

/-- What calls on an operation tell is blameless. -/
lemma not_isMisuse_of_proper {kind : ResponseKind} {fault : Fault}
    (h : (Event.fault fault).Proper kind Fault.IsTransfer) : ¬ fault.IsMisuse := by
  rcases h with server | transfer
  · cases fault <;> simp_all [Fault.serverError?, Fault.IsMisuse, Fault.kind]
  · exact transfer.not_isMisuse

/-- What a call that is in order tells. -/
lemma InOrder.proper_told {c : Call} (h : c.InOrder Fault.IsTransfer Fault.IsUnserved) :
    (∀ r done, .response r done ∈ c.told → c.request.responseKind.Admits r) ∧
      ∀ fault, .fault fault ∈ c.told → ¬ fault.IsMisuse := by
  cases h with
  | connecting => simp [told]
  | unserved own =>
    refine ⟨fun r done m => ?_, fun fault m => ?_⟩
    · cases List.mem_singleton.1 m
    · cases List.mem_singleton.1 m
      exact own.not_isMisuse
  | exchanging _ carrying =>
    have proper := carrying.leads.proper
    exact ⟨fun r done m => proper _ m, fun fault m => not_isMisuse_of_proper (proper _ m)⟩
  | ended leads _ | dropped leads =>
    have proper := leads.proper
    exact ⟨fun r done m => proper _ m, fun fault m => not_isMisuse_of_proper (proper _ m)⟩

/-- What a call that is in order gives whoever waits for its answer. -/
lemma InOrder.proper_answer {c : Call} (h : c.InOrder Fault.IsTransfer Fault.IsUnserved)
    {given : Except Fault Response} (e : c.answer? = some given) :
    (∃ r, given = .ok r ∧ c.request.responseKind.Admits r) ∨
      ∃ fault, given = .error fault ∧ ¬ fault.IsMisuse := by
  cases h with
  | connecting | exchanging _ _ | dropped _ => cases e
  | unserved own =>
    cases e
    exact .inr ⟨_, rfl, own.not_isMisuse⟩
  | ended leads term =>
    have proper := leads.proper
    obtain rfl := Option.some.inj e
    show (∃ r, Call.outcome _ = _ ∧ _) ∨ ∃ fault, Call.outcome _ = _ ∧ _
    rcases leads.settled term with ⟨_, fragments, r, _, rfl⟩ | ⟨_, fragments, fault, _, rfl⟩
    · refine .inl ⟨r, ?_, proper (.response r true) (by simp)⟩
      rw [Call.outcome, find?_fragments fragments rfl]
    · refine .inr ⟨fault, ?_, not_isMisuse_of_proper (proper (.fault fault) (by simp))⟩
      rw [Call.outcome, find?_fragments fragments rfl]

/-- A call that is in order is blameless. -/
lemma InOrder.blameless {c : Call} (h : c.InOrder Fault.IsTransfer Fault.IsUnserved) :
    c.Blameless := by
  obtain ⟨responses, faults⟩ := h.proper_told
  refine ⟨responses, faults, ?_, ?_, ?_, ?_⟩
  · intro fault e
    cases h with
    | connecting | exchanging _ _ | dropped _ | ended _ _ => cases e
    | unserved own =>
      cases e
      exact own.not_isMisuse
  · intro r e
    rcases h.proper_answer e with ⟨_, ⟨⟩, admits⟩ | ⟨_, ⟨⟩, _⟩
    exact admits
  · intro fault e
    rcases h.proper_answer e with ⟨_, ⟨⟩, _⟩ | ⟨_, ⟨⟩, fine⟩
    exact fine
  · intro α t listed same given e
    rcases h.proper_answer e with ⟨r, rfl, admits⟩ | ⟨fault, rfl, fine⟩
    · rw [← same] at admits
      obtain ⟨value, read⟩ := listed.exists_read? admits
      refine .inl ⟨value, ?_⟩
      simp only [TypedCall.read, bind, Except.bind, read]
      rfl
    · exact .inr ⟨fault, rfl, fine⟩

end Call

/-- A connection that a pool gives out: one that was idle, or one that has just been opened. -/
inductive Pool.Gives (p : Pool) : Pooled → Prop where
  | idle {pooled q} : p.checkOut = (.ready pooled, q) → Gives p pooled
  | opened (r : Pool.Reservation) (address : Address) : Gives p (p.connected r address).1

/-- A client that is ready gives its calls only connections that are fit. -/
lemma Client.Ready.fit_of_gives {c : Client} (h : c.Ready) {pooled : Pooled}
    (gives : c.pool.Gives pooled) : pooled.connection.Fit := by
  cases gives with
  | opened r address => exact Connection.fit_opened c.pool r address
  | @idle pooled q e =>
    have begun := c.pool.checkOut_begun
    rw [e] at begun
    cases begun with
    | ready taken =>
      apply h.idle
      rw [(Pool.takeIdle_eq_some taken).1]
      exact List.mem_cons_self

/-- The first turn of a call over a connection that is fit meets no fault of misuse. In particular
the connection is not refused. -/
lemma Connection.Fit.firstTurn {pooled : Pooled} (fit : pooled.connection.Fit) (request : Request)
    (delivery : Delivery) {fault : Fault}
    (m : .fault fault ∈ (Call.firstTurn request delivery pooled).events) : ¬ fault.IsMisuse := by
  obtain ⟨_, conducts⟩ :=
    Client.firstTurn_conducts (fun _ t => t) (fit.offered Fault.IsTransfer) request delivery
  have proper : (Event.fault fault).Proper request.responseKind Fault.IsTransfer := by
    unfold Turn.Conducts at conducts
    split at conducts
    · exact conducts.leads.proper _ m
    · exact conducts.leads.proper _ m
  exact Call.not_isMisuse_of_proper proper

section start

variable {σ : Type} {dial : Nat → HostId → StateT σ Option (Except Fault Address)} {s s' : σ}
  {config : Config} {pool : Pool}

/-- A client over a pool that was built is ready. -/
lemma Client.ready_start (built : Pool.build dial config s = some (.ok pool, s'))
    (timeout : Option UInt64) : Ready { pool, operationTimeout := timeout } := by
  refine ⟨?_, by simp⟩
  show ∀ i ∈ pool.available, i.connection.Fit
  refine Pool.build_induct (P := fun p => ∀ i ∈ p.available, i.connection.Fit) ?_ ?_ ?_ built
  · simp
  · intro p p' config h added
    rw [(Pool.addHost_available added).1]
    exact h
  · intro p p' r address h reserved i m
    obtain ⟨_, _, _, _, _, _, _, rfl⟩ := Pool.reserve?_eq_some reserved
    rcases List.mem_append.1 m with old | new
    · exact h i old
    · cases List.mem_singleton.1 new
      exact ⟨.addressed address (.opened _ _ _), rfl, rfl⟩

/-- Whatever the servers send and however the calls of a client come by turns: every connection that
its pool gives out can be used and shows no input, so that no call is refused over it, and every
call tells and gives responses of the kind of its request and no faults of misuse. -/
theorem no_misuse (built : Pool.build dial config s = some (.ok pool, s'))
    (timeout : Option UInt64) {c : Client}
    (reach : Relation.ReflTransGen Client.Moves { pool, operationTimeout := timeout } c) :
    (∀ pooled, c.pool.Gives pooled →
        pooled.connection.isUsable = true ∧ pooled.connection.hasBufferedInput = false ∧
          ∀ request delivery fault,
            .fault fault ∈ (Call.firstTurn request delivery pooled).events → ¬ fault.IsMisuse) ∧
      ∀ (number : Nat) (call : Call), c.calls[number]? = some call → call.Blameless := by
  have ready := (Client.ready_start built timeout).reaches reach
  refine ⟨fun pooled gives => ?_, fun number call here => (ready.calls number call here).blameless⟩
  have fit := ready.fit_of_gives gives
  exact ⟨fit.usable, fit.unbuffered, fun request delivery _ m => fit.firstTurn request delivery m⟩

end start

/-- A server sends a frame that has no room for a tag, while another call cannot connect. -/
theorem no_misuse_noRoomForTag :
    Pool.build (fun _ _ => pure (.ok home) : Nat → HostId → StateT Unit Option _) {} () =
        some (.ok homePool, ()) ∧
      ∃ c call,
        Relation.ReflTransGen Client.Moves { pool := homePool } c ∧
          c.calls[0]? = some call ∧ call.told = [.fault (.format .noRoomForTag)] ∧
          call.Blameless := by
  have built : Pool.build (fun _ _ => pure (.ok home) : Nat → HostId → StateT Unit Option _) {} () =
      some (.ok homePool, ()) := by rfl
  refine ⟨built, ?_⟩
  have run : Relation.ReflTransGen Client.Moves { pool := homePool } _ := .refl
  have run := run.tail (.input (.made .ping .merged) (by simp))
  have run := run.tail (.input (.connected 0 (.ok home)) (by simp))
  have run := run.tail (.input (.completed 0 (.wrote 5)) (by simp))
  have run := run.tail (.input (.made .ping .perFragment) (by simp))
  have run := run.tail (.input (.connected 1 (.error (.connect home.text "refused")))
    fun number fault e => by cases e; exact .inr rfl)
  have run := run.tail (.input (.completed 0 .flushed) (by simp))
  have run := run.tail (.input (.completed 0 (.received [0, 0, 0, 0, 1])) (by simp))
  generalize last : Client.step _ (.completed 0 (.received [0, 0, 0, 0, 1])) = c at run
  have told : (c.calls[0]?).map Call.told = some [.fault (.format .noRoomForTag)] := by
    rw [← last]
    decide +kernel
  obtain ⟨call, here, told⟩ := Option.map_eq_some_iff.1 told
  exact ⟨c, call, run, here, told, (no_misuse built none run).2 0 call here⟩

end StoreClient
