import Mathlib
import StoreClient.Proofs.Exchange
import StoreClient.Simulation.Line

/-!
# Sessions

A session is what happens on one connection: operations are driven over it, one after the other, and
it may be closed. A drive is told by the answers of the transport (`follow`); where they run out, the
caller drops it. Any line gives answers like these (`carry_eq_follow`).

While the connection can be used it is in step, and every request that has left a byte has been
answered; when it can no longer be used, it never can again, and nothing more is asked of the
transport (`in_step_or_retired`). What one drive does to this is `follow_sound`, by induction on the
answers.
-/

namespace StoreClient

open Operation (Event Takes)
open Exchange (Turn Underway Left Ending)

namespace Session

/-- What has become of an operation that was driven over a connection. -/
structure Drive where
  /-- The operation as it was handed over. -/
  before : Operation
  after : Operation
  traffic : Traffic
  /-- What the listener was told. -/
  events : List Event
  /-- What the caller got, unless the caller dropped the drive. -/
  result : Option (Except Fault Operation.State)

/-- Goes on with an answer of the transport, or with none where the deadline passes. -/
def next (x : Exchange) : Option Completion → Turn
  | some answer => x.resume answer
  | none => x.expire

/-- Follows an exchange of the operation `o` from a turn on. Where the answers run out, the caller
drops the drive. -/
def follow (o : Operation) :
    List (Option Completion) → Turn → Traffic → List Event → Connection × Drive
  | answers, turn, traffic, heard =>
    let heard := heard ++ turn.events
    match turn.progress with
    | .ended e =>
      (e.connection,
        { before := o, after := e.operation, traffic, events := heard, result := some e.result })
    | .waiting x =>
      match answers with
      | [] =>
        (x.connection,
          { before := o
            after := x.operation
            traffic := traffic ++ [(x.await, none)]
            events := heard
            result := none })
      | answer :: answers =>
        follow o answers (next x answer) (traffic ++ [(x.await, answer)]) heard

/-- A use of a connection. -/
inductive Use where
  /-- An operation is driven on which these calls were made before, and the transport answers. -/
  | drive (request : Request) (delivery : Delivery) (calls : List Operation.Call)
      (answers : List (Option Completion))
  | close

end Session

/-- A connection with the drives over it, oldest first. -/
structure Session where
  connection : Connection
  drives : List Session.Drive := []

namespace Session

/-- Uses the connection. -/
def use (s : Session) : Use → Session
  | .drive request delivery calls answers =>
    let o := ((Operation.ofRequest request delivery).run calls).operation
    let (connection, drive) := follow o answers (Exchange.start s.connection o) [] []
    { connection, drives := s.drives ++ [drive] }
  | .close => { s with connection := s.connection.close }

/-- Uses the connection in turn. -/
def run (s : Session) (uses : List Use) : Session := uses.foldl use s

/-- A session over a byte stream that nothing has been read from. -/
def begin (id : Nat) (host : HostId) (maxFrameLength : UInt32) : Session where
  connection := .ofStream id host maxFrameLength

/-- The whole request has been sent off, and the input is an answer that the operation has taken to
the frame that brought its outcome. -/
def Drive.Answered (d : Drive) : Prop :=
  d.traffic.Delivered d.before.request.frame.bytes ∧
    ∃ taken last p told,
      (∀ f ∈ taken ++ [last], f.Fits) ∧
      d.traffic.received = (taken ++ [last]).flatMap Frame.bytes ∧
      Takes d.before.beginSend.operation taken p told ∧
      (p.onFrame last).operation = d.after ∧
      ((p.onFrame last).result = .ok .done ∨ ∃ error, (p.onFrame last).result = .ok (.failed error))

/-- The connection was refused: nothing was asked of the transport, and an operation whose outcome
was open has failed. -/
def Drive.Refused (id : Nat) (d : Drive) : Prop :=
  d.traffic = [] ∧
    if d.before.isTerminal then
      d.after = d.before ∧ d.events = [] ∧ d.result = some (.error .alreadyCompleted)
    else
      d.after.state = .failed ∧ d.events = [.fault (.binding (.notUsable id))] ∧
        d.result = some (.ok .failed)

/-- What holds of a session between two uses. -/
structure Sound (id : Nat) (s : Session) : Prop where
  number : s.connection.id = id
  inStep : s.connection.isUsable = true → s.connection.InStep
  answered : s.connection.isUsable = true → ∀ d ∈ s.drives, d.traffic.accepted ≠ [] → d.Answered

/-! ### Drives -/

/-- A drive whose exchange has left a connection that can be used was answered, if a byte was
sent. -/
lemma answered_of_left {o : Operation} {e : Exchange.Ended} {t : Traffic} {heard : List Event}
    (left : Left o e t heard) (usable : e.connection.isUsable = true) (sent : t.accepted ≠ [])
    (result : Option (Except Fault Operation.State)) :
    Drive.Answered
      { before := o, after := e.operation, traffic := t, events := heard, result } := by
  cases left.ending with
  | unbegun none_ _ => exact absurd (by rw [none_]; rfl) sent
  | faulted _ _ _ _ _ _ lost => exact absurd usable (by simp [lost])
  | @answered taken last p told events progress rest _ _ del bytes fits tk e' outcome _ clean =>
    refine ⟨del, taken, last, p, told, fits, ?_, tk, by rw [e'], ?_⟩
    · simpa [clean usable] using bytes
    · rw [e']
      cases progress with
      | more => exact absurd rfl outcome
      | done => exact .inl rfl
      | failed error => exact .inr ⟨error, rfl⟩

/-- An exchange that is underway goes on as it should. -/
lemma next_sound {o : Operation} {x : Exchange} {t : Traffic} {heard : List Event}
    (u : Underway o x t heard) (answer : Option Completion) :
    (next x answer).Sound o (t ++ [(x.await, answer)]) (heard ++ (next x answer).events) := by
  cases answer with
  | none => exact u.expire
  | some completion => exact u.resume completion

/-- A step of an exchange leaves its connection the number. -/
lemma next_id (x : Exchange) (answer : Option Completion) :
    (next x answer).connection.id = x.connection.id := by
  cases answer with
  | none => exact Exchange.finish_id x.connection x.operation [] (.error .timeout)
  | some completion => exact Exchange.resume_id x completion

section follow

variable {o : Operation} {turn : Turn} {t : Traffic} {heard : List Event}

/-- An exchange that has ended takes no answers. -/
lemma follow_ended {e : Exchange.Ended} (progress : turn.progress = .ended e)
    (answers : List (Option Completion)) :
    follow o answers turn t heard =
      (e.connection,
        { before := o
          after := e.operation
          traffic := t
          events := heard ++ turn.events
          result := some e.result }) := by
  cases answers <;> simp only [follow, progress]

/-- An exchange without an answer is left waiting. -/
lemma follow_nil {x : Exchange} (progress : turn.progress = .waiting x) :
    follow o [] turn t heard =
      (x.connection,
        { before := o
          after := x.operation
          traffic := t ++ [(x.await, none)]
          events := heard ++ turn.events
          result := none }) := by
  simp only [follow, progress]

/-- An exchange takes its answers in turn. -/
lemma follow_cons {x : Exchange} (progress : turn.progress = .waiting x)
    (answer : Option Completion) (answers : List (Option Completion)) :
    follow o (answer :: answers) turn t heard =
      follow o answers (next x answer) (t ++ [(x.await, answer)]) (heard ++ turn.events) := by
  rw [follow, progress]

end follow

/-- After a drive a connection that can be used is in step, and the drive was answered if a byte was
sent. -/
lemma follow_sound {o : Operation} (answers : List (Option Completion)) {turn : Turn} {t : Traffic}
    {heard : List Event} (sound : turn.Sound o t (heard ++ turn.events)) :
    let followed := follow o answers turn t heard
    followed.1.isUsable = true →
      followed.1.InStep ∧ (followed.2.traffic.accepted ≠ [] → followed.2.Answered) := by
  -- The exchange is underway from one answer to the next.
  induction answers generalizing turn t heard with
  | nil =>
    unfold Turn.Sound at sound
    cases progress : turn.progress with
    | ended e =>
      rw [progress] at sound
      rw [follow_ended progress]
      exact fun usable => ⟨sound.inStep usable, fun sent => answered_of_left sound usable sent _⟩
    | waiting x =>
      rw [progress] at sound
      rw [follow_nil progress]
      intro followed usable
      have idle := (Connection.isUsable_iff.1 usable).2.2
      exact absurd idle (by simp [followed, sound.inFlight])
  | cons answer answers ih =>
    unfold Turn.Sound at sound
    cases progress : turn.progress with
    | ended e =>
      rw [progress] at sound
      rw [follow_ended progress]
      exact fun usable => ⟨sound.inStep usable, fun sent => answered_of_left sound usable sent _⟩
    | waiting x =>
      rw [progress] at sound
      rw [follow_cons progress]
      exact ih (next_sound sound answer)

/-- However it is answered, an exchange leaves its connection the number. -/
lemma follow_id (o : Operation) (answers : List (Option Completion)) (turn : Turn) (t : Traffic)
    (heard : List Event) : (follow o answers turn t heard).1.id = turn.connection.id := by
  induction answers generalizing turn t heard with
  | nil =>
    unfold Turn.connection
    cases progress : turn.progress with
    | ended e => rw [follow_ended progress]
    | waiting x => rw [follow_nil progress]
  | cons answer answers ih =>
    unfold Turn.connection
    cases progress : turn.progress with
    | ended e => rw [follow_ended progress]
    | waiting x =>
      rw [follow_cons progress, ih]
      exact next_id x answer

/-- Over a connection that cannot be used a drive changes nothing about it and is refused. -/
lemma follow_start_of_unusable {o : Operation} {c : Connection} (att : o.Attended)
    (lost : c.isUsable = false) (answers : List (Option Completion)) :
    (follow o answers (Exchange.start c o) [] []).1 = c ∧
      (follow o answers (Exchange.start c o) [] []).2.Refused c.id := by
  cases term : o.isTerminal with
  | true =>
    have start : Exchange.start c o =
        { progress := .ended
            { connection := c, operation := o, result := .error .alreadyCompleted } } := by
      simp [Exchange.start, term]
    rw [start, follow_ended rfl]
    exact ⟨rfl, rfl, by simp [term]⟩
  | false =>
    have start : Exchange.start c o =
        { events := [.fault (.binding (.notUsable c.id))]
          progress := .ended
            { connection := c
              operation := { o with state := .failed, listening := false }
              result := .ok .failed } } := by
      simp [Exchange.start, term, lost, Operation.fail_of_open term (att.hears term)]
    rw [start, follow_ended rfl]
    exact ⟨rfl, rfl, by simp [term]⟩

/-! ### Drives over lines -/

section carry

open Simulation (Line Limits Patience Driven)

variable {σ : Type} (limits : Limits) (o : Operation) (t : Traffic) (heard : List Event)

/-- What is left of a drive over a line, without the line. -/
def ofDriven (o : Operation) (traffic : Traffic) (d : Driven σ) : Connection × Drive :=
  (d.connection,
    { before := o, after := d.operation, traffic, events := d.events, result := d.result })

/-- An exchange that is cut off on a line expires or is dropped. -/
lemma cutOff_eq_follow {turn : Turn} {x : Exchange} (progress : turn.progress = .waiting x)
    (line : σ) :
    ∃ answers traffic,
      follow o answers turn t heard =
        ofDriven o traffic (Simulation.cutOff limits x line (heard ++ turn.events)) := by
  have dropped (cut : limits.cut? ≠ some .deadline) :
      ofDriven o (t ++ [(x.await, none)])
          (Simulation.cutOff limits x line (heard ++ turn.events)) =
        follow o [] turn t heard := by
    rw [follow_nil progress]
    unfold Simulation.cutOff
    split
    · rename_i deadline
      exact absurd deadline cut
    · rfl
  cases cut : limits.cut? with
  | none => exact ⟨[], _, (dropped (by simp [cut])).symm⟩
  | some cause =>
    cases cause with
    | caller => exact ⟨[], _, (dropped (by simp [cut])).symm⟩
    | deadline =>
      obtain ⟨e, ended⟩ : ∃ e, (next x none).progress = .ended e := ⟨_, rfl⟩
      refine ⟨[none], t ++ [(x.await, none)], ?_⟩
      rw [follow_cons progress, follow_ended ended]
      have ended' : x.expire.progress = .ended e := ended
      simp only [Simulation.cutOff, cut, ended']
      rfl

/-- An exchange goes on over a line by answers of the line. -/
lemma carryFrom_eq_follow [Line σ] (steps : Nat) (patience : Patience) (turn : Turn) (line : σ) :
    ∃ answers traffic,
      follow o answers turn t heard =
        ofDriven o traffic (Simulation.carryFrom limits steps patience turn line heard) := by
  induction steps generalizing patience turn line t heard with
  | zero =>
    unfold Simulation.carryFrom
    cases progress : turn.progress with
    | ended e => exact ⟨[], t, by rw [follow_ended progress]; rfl⟩
    | waiting x => exact cutOff_eq_follow limits o t heard progress line
  | succ steps ih =>
    unfold Simulation.carryFrom
    cases progress : turn.progress with
    | ended e => exact ⟨[], t, by rw [follow_ended progress]; rfl⟩
    | waiting x =>
      cases ask : Line.ask line x.connection.readCapacity x.await patience with
      | overdue line =>
        simp only [ask]
        exact cutOff_eq_follow limits o t heard progress line
      | given completion patience line =>
        simp only [ask]
        obtain ⟨answers, traffic, e⟩ := ih (t ++ [(x.await, some completion)])
          (heard ++ turn.events) patience (x.resume completion) line
        exact ⟨some completion :: answers, traffic, by rw [follow_cons progress]; exact e⟩

/-- Carrying an operation over a line is a drive by answers of the line. -/
theorem carry_eq_follow [Line σ] (c : Connection) (line : σ) :
    ∃ answers traffic,
      follow o answers (Exchange.start c o) [] [] =
        ofDriven o traffic (Simulation.carry c o line limits) :=
  carryFrom_eq_follow limits o [] [] _ _ _ line

end carry

/-! ### Uses -/

/-- A use keeps a session sound. -/
lemma Sound.use {id : Nat} {s : Session} (h : s.Sound id) (u : Use) : (s.use u).Sound id := by
  cases u with
  | close =>
    have lost := s.connection.isUsable_close
    refine ⟨s.connection.close_id.trans h.number, fun usable => ?_, fun usable => ?_⟩
    · exact absurd usable (by simp [Session.use, lost])
    · exact absurd usable (by simp [Session.use, lost])
  | drive request delivery calls answers =>
    have att := (Operation.told_run request delivery calls).attended
    cases usable : s.connection.isUsable with
    | false =>
      -- The connection stays as it is, so there is nothing to say of the drives.
      obtain ⟨same, _⟩ := follow_start_of_unusable att usable answers
      have lost : (s.use (.drive request delivery calls answers)).connection.isUsable = false := by
        show (follow _ answers _ [] []).1.isUsable = false
        rw [same, usable]
      refine ⟨?_, fun u => ?_, fun u => ?_⟩
      · show (follow _ answers _ [] []).1.id = id
        rw [same, h.number]
      · exact absurd u (by simp [lost])
      · exact absurd u (by simp [lost])
    | true =>
      have start : Turn.Sound _ _ [] ([] ++ _) := Exchange.start_sound att h.inStep
      have after := follow_sound answers start
      refine ⟨?_, fun u => (after u).1, fun u d m => ?_⟩
      · exact (follow_id ..).trans ((Exchange.start_id ..).trans h.number)
      · rcases List.mem_append.1 m with old | new
        · exact h.answered usable d old
        · cases List.mem_singleton.1 new
          exact (after u).2

/-- Any uses keep a session sound. -/
lemma Sound.run {id : Nat} {s : Session} (h : s.Sound id) (uses : List Use) :
    (s.run uses).Sound id := by
  induction uses generalizing s with
  | nil => exact h
  | cons u uses ih => exact ih (h.use u)

/-- A session over a new byte stream is sound. -/
lemma sound_begin (id : Nat) (host : HostId) (maxFrameLength : UInt32) :
    (begin id host maxFrameLength).Sound id :=
  ⟨rfl, fun _ => ⟨rfl, rfl, rfl⟩, fun _ => by simp [begin]⟩

/-- A connection that cannot be used stays so, and drives over it are refused. -/
lemma use_of_unusable {s : Session} (lost : s.connection.isUsable = false) (u : Use) :
    (s.use u).connection.isUsable = false ∧ (s.use u).connection.id = s.connection.id ∧
      ∃ drives, (s.use u).drives = s.drives ++ drives ∧
        ∀ d ∈ drives, d.Refused s.connection.id := by
  cases u with
  | close =>
    refine ⟨s.connection.isUsable_close, s.connection.close_id, [], ?_, by simp⟩
    exact (List.append_nil _).symm
  | drive request delivery calls answers =>
    have att := (Operation.told_run request delivery calls).attended
    obtain ⟨same, refused⟩ := follow_start_of_unusable att lost answers
    refine ⟨?_, ?_, [_], rfl, ?_⟩
    · show (follow _ answers _ [] []).1.isUsable = false
      rw [same, lost]
    · show (follow _ answers _ [] []).1.id = _
      rw [same]
    · intro d m
      cases List.mem_singleton.1 m
      exact refused

/-- A connection that cannot be used stays so for good, and all later drives are refused. -/
lemma run_of_unusable {s : Session} (lost : s.connection.isUsable = false) (uses : List Use) :
    (s.run uses).connection.isUsable = false ∧
      ∃ drives, (s.run uses).drives = s.drives ++ drives ∧
        ∀ d ∈ drives, d.Refused s.connection.id := by
  induction uses generalizing s with
  | nil => exact ⟨lost, [], by simp [run], by simp⟩
  | cons u uses ih =>
    obtain ⟨lost', number, drives, grown, refused⟩ := use_of_unusable lost u
    obtain ⟨lost'', drives', grown', refused'⟩ := ih lost'
    refine ⟨lost'', drives ++ drives', ?_, ?_⟩
    · show ((s.use u).run uses).drives = _
      rw [grown', grown, List.append_assoc]
    · intro d m
      rcases List.mem_append.1 m with first | later
      · exact refused d first
      · exact number ▸ refused' d later

/-- Whatever is driven over a connection, however the transport answers and wherever a drive is cut
off: while the connection can be used, no input is held, and every request of which a byte was sent
was sent off completely and answered to the frame that brought its outcome. Once the connection
cannot be used, it never can again, and every later drive asks nothing of the transport and fails its
operation with the fault that says so, unless that had its outcome already. -/
theorem in_step_or_retired (id : Nat) (host : HostId) (maxFrameLength : UInt32)
    (uses : List Use) :
    let now := (begin id host maxFrameLength).run uses
    (now.connection.isUsable = true →
      now.connection.ready = [] ∧ now.connection.decoder.isIdle = true ∧
        now.connection.deferred = none ∧
        ∀ d ∈ now.drives, d.traffic.accepted ≠ [] → d.Answered) ∧
    (now.connection.isUsable = false →
      ∀ later,
        (now.run later).connection.isUsable = false ∧
          ∃ drives, (now.run later).drives = now.drives ++ drives ∧ ∀ d ∈ drives, d.Refused id) := by
  intro now
  have sound : now.Sound id := (sound_begin id host maxFrameLength).run uses
  refine ⟨fun usable => ?_, fun lost later => ?_⟩
  · obtain ⟨ready, idle, deferred⟩ := sound.inStep usable
    exact ⟨ready, idle, deferred, sound.answered usable⟩
  · have retired := run_of_unusable lost later
    rwa [sound.number] at retired

end Session

end StoreClient
