import Mathlib
import StoreClient.Exchange
import StoreClient.Proofs.Decoder
import StoreClient.Proofs.Operation

/-!
# Exchanges and their traffic

What an exchange has asked of its transport and been answered is its `Traffic`. While it waits it is
`Underway`: so much of the request is out, so much of the answer has been taken. When it ends it has
`Left` a connection that can be used again only if the whole request is out and the input ended with
the frame that brought the outcome.

Each turn of an exchange goes from the one to the one or to the other (`start_sound`,
`Underway.resume`, `Underway.expire`). The frames of one read are taken by `drain_sound`, whose
induction is on those frames.
-/

namespace StoreClient

open Operation (Event Takes Awaiting)

/-- What was asked of a transport and what it answered, oldest first; there is no answer to what was
cut off. -/
abbrev Traffic := List (Await × Option Completion)

namespace Traffic

/-- The bytes that the transport has taken. -/
def accepted (t : Traffic) : Bytes :=
  t.flatMap fun
    | (.write bytes, some (.wrote count)) => bytes.take count
    | _ => []

/-- The bytes that the transport has given. -/
def received (t : Traffic) : Bytes :=
  t.flatMap fun
    | (.read, some (.received chunk)) => chunk
    | _ => []

/-- The transport has taken these bytes and no others, and has sent all of them off. -/
def Delivered (t : Traffic) (bytes : Bytes) : Prop :=
  ∃ before after : Traffic,
    t = before ++ (.flush, some .flushed) :: after ∧
      accepted before = bytes ∧ accepted after = []

/-- Before any traffic nothing was accepted. -/
@[simp] lemma accepted_nil : accepted [] = [] := rfl

/-- Before any traffic nothing was received. -/
@[simp] lemma received_nil : received [] = [] := rfl

/-- What was accepted in two parts of the traffic was accepted in turn. -/
@[simp] lemma accepted_append (s t : Traffic) : accepted (s ++ t) = accepted s ++ accepted t := by
  simp [accepted]

/-- What was received in two parts of the traffic was received in turn. -/
@[simp] lemma received_append (s t : Traffic) : received (s ++ t) = received s ++ received t := by
  simp [received]

/-- The bytes that were delivered are those that were taken. -/
lemma Delivered.accepted {t : Traffic} {bytes : Bytes} (del : Delivered t bytes) :
    accepted t = bytes := by
  obtain ⟨before, after, rfl, taken, none_⟩ := del
  have flush : Traffic.accepted ((.flush, some .flushed) :: after) = Traffic.accepted after := by
    simp [Traffic.accepted]
  rw [accepted_append, flush, taken, none_, List.append_nil]

/-- What is asked afterwards undoes no delivery, unless more is written. -/
lemma Delivered.snoc {t : Traffic} {bytes : Bytes} (del : Delivered t bytes)
    {ask : Await × Option Completion} (none_ : Traffic.accepted [ask] = []) :
    Delivered (t ++ [ask]) bytes := by
  obtain ⟨before, after, rfl, taken, nothing⟩ := del
  exact ⟨before, after ++ [ask], by simp, taken, by rw [accepted_append, nothing, none_]; rfl⟩

end Traffic

open Traffic

/-- A connection can be used unless it is broken, closed or in flight. -/
lemma Connection.isUsable_iff {c : Connection} :
    c.isUsable = true ↔ c.broken = false ∧ c.closed = false ∧ c.inFlight = false := by
  simp [isUsable, and_assoc]

/-- A connection that is closed cannot be used. -/
lemma Connection.isUsable_close (c : Connection) : c.close.isUsable = false := by
  unfold close
  split
  · rename_i closed
    simp [isUsable, closed]
  · simp [isUsable]

/-- A connection keeps its number when it is closed. -/
lemma Connection.close_id (c : Connection) : c.close.id = c.id := by
  unfold close
  split <;> rfl

/-- No input is held. -/
structure Connection.InStep (c : Connection) : Prop where
  ready : c.ready = []
  idle : c.decoder.isIdle = true
  deferred : c.deferred = none

namespace Exchange

/-! ### What holds while an exchange waits and when it has ended -/

/-- How much of a request is out in each phase. -/
def Sent (request : Bytes) (t : Traffic) : Phase → Prop
  | .sending (.writing rest) => accepted t ++ rest = request ∧ rest ≠ [] ∧ received t = []
  | .sending .flushing => accepted t = request ∧ received t = []
  | .receiving => Delivered t request

/-- An exchange of the operation `o` that waits: its request is out as far as its phase says, and the
frames of the input so far have been taken and leave more to come. -/
structure Underway (o : Operation) (x : Exchange) (t : Traffic) (heard : List Event) : Prop where
  fresh : o.state = .encoded
  hears : o.listening = true
  fits : o.request.frame.Fits
  inFlight : x.connection.inFlight = true
  broken : x.connection.broken = false
  closed : x.connection.closed = false
  ready : x.connection.ready = []
  deferred : x.connection.deferred = none
  request : Sent o.request.frame.bytes t x.phase
  answer : ∃ taken,
    x.connection.decoder.reset.feed (received t) = ⟨x.connection.decoder, taken, none⟩ ∧
      Takes o.beginSend.operation taken x.operation heard

/-- How an exchange of the operation `o` has ended. -/
inductive Ending (o : Operation) (e : Ended) (t : Traffic) (heard : List Event) : Prop where
  /-- Nothing was asked of the transport. -/
  | unbegun :
    t = [] →
    (∀ event ∈ heard, ∃ fault, event = .fault fault ∧ fault.serverError? = none) →
    Ending o e t heard
  /-- A frame has brought the outcome, and the input ended with it if the connection can be used. -/
  | answered {taken last p told events progress rest} :
    o.state = .encoded →
    o.request.frame.Fits →
    Delivered t o.request.frame.bytes →
    received t = (taken ++ [last]).flatMap Frame.bytes ++ rest →
    (∀ f ∈ taken ++ [last], f.Fits) →
    Takes o.beginSend.operation taken p told →
    p.onFrame last = { operation := e.operation, events, result := .ok progress } →
    progress ≠ .more →
    heard = told ++ events →
    (e.connection.isUsable = true → rest = []) →
    Ending o e t heard
  /-- A fault was met that has broken the connection. -/
  | faulted {taken p told fault rest} :
    o.state = .encoded →
    received t = taken.flatMap Frame.bytes ++ rest →
    (∀ f ∈ taken, f.Fits) →
    Takes o.beginSend.operation taken p told →
    heard = told ++ [.fault fault] →
    fault.serverError? = none →
    e.connection.isUsable = false →
    Ending o e t heard

/-- What an exchange of the operation `o` leaves behind. -/
structure Left (o : Operation) (e : Ended) (t : Traffic) (heard : List Event) : Prop where
  settled : e.operation.isTerminal = true
  result : o.isTerminal = false → ∀ fault, e.result ≠ .error fault
  inStep : e.connection.isUsable = true → e.connection.InStep
  ending : Ending o e t heard

/-- An exchange of the operation `o` after a turn: it waits or has ended, as it should. -/
def Turn.Sound (o : Operation) (turn : Turn) (t : Traffic) (heard : List Event) : Prop :=
  match turn.progress with
  | .waiting x => Underway o x t heard
  | .ended e => Left o e t heard

/-- An operation that has been begun waits for its answer. -/
lemma awaiting_begun {o : Operation} (fresh : o.state = .encoded) (hears : o.listening = true) :
    o.beginSend.operation.Awaiting := by
  simp only [Operation.beginSend, if_pos fresh]
  exact ⟨rfl, hears⟩

/-! ### Endings -/

/-- An exchange that meets a fault while its operation waits tells the listener of it. -/
lemma finish_error {c : Connection} {p : Operation} (aw : p.Awaiting) (events : List Event)
    (fault : Fault) :
    ∃ e : Ended,
      finish c p events (.error fault) =
          { events := events ++ [.fault fault], progress := .ended e } ∧
        e.operation.isTerminal = true ∧
        (∀ fault, e.result ≠ .error fault) ∧
        (c.InStep → e.connection.InStep) ∧
        (fault.isFatal = true ∨ c.broken = true → e.connection.isUsable = false) := by
  simp only [finish, Operation.fail_of_open aw.isTerminal aw.hears]
  refine ⟨_, rfl, rfl, nofun, ?_, ?_⟩
  · intro inStep
    dsimp only
    split <;> exact ⟨inStep.ready, inStep.idle, inStep.deferred⟩
  intro bad
  dsimp only
  split
  · simp [Connection.isUsable, Connection.markBroken]
  · rename_i mild
    have broken : c.broken = true := bad.resolve_left mild
    simp [Connection.isUsable, broken]

/-- An exchange whose operation has its outcome ends; it leaves a connection that can be used only
where no input is left. -/
lemma finish_ok (c : Connection) (p : Operation) (events : List Event) :
    ∃ e : Ended,
      finish c p events (.ok ()) = { events, progress := .ended e } ∧
        e.operation = p ∧
        (∀ fault, e.result ≠ .error fault) ∧
        (e.connection.isUsable = true →
          c.broken = false ∧ c.ready = [] ∧ c.decoder.isIdle = true ∧
            e.connection.ready = [] ∧ e.connection.decoder.isIdle = true ∧
            e.connection.deferred = c.deferred) := by
  unfold finish
  refine ⟨_, rfl, rfl, nofun, ?_⟩
  dsimp only
  split
  · simp [Connection.isUsable, Connection.markBroken]
  · rename_i nothing
    intro usable
    simp only [Connection.hasBufferedInput, Bool.or_eq_true, Bool.not_eq_true', not_or,
      Bool.not_eq_false, List.isEmpty_iff] at nothing
    have ok := (Connection.isUsable_iff.1 usable).1
    exact ⟨ok, nothing.1, nothing.2, nothing.1, nothing.2, rfl⟩

/-! ### Turns -/

section drain

variable {o p q : Operation} {c : Connection} {t : Traffic} {taken frames : List Frame}
  {prior events : List Event}

/-- A fault that is met while the answer is taken ends the exchange as it should. -/
lemma finish_error_sound (fresh : o.state = .encoded) {rest : Bytes}
    (bytes : received t = taken.flatMap Frame.bytes ++ rest) (fits : ∀ f ∈ taken, f.Fits)
    (tk : Takes o.beginSend.operation taken p (prior ++ events)) (aw : q.Awaiting) {fault : Fault}
    (own : fault.serverError? = none) (bad : fault.isFatal = true ∨ c.broken = true) :
    (finish c q events (.error fault)).Sound o t
      (prior ++ (finish c q events (.error fault)).events) := by
  obtain ⟨e, turn, settled, fine, _, unusable⟩ := finish_error (c := c) aw events fault
  have lost := unusable bad
  rw [turn]
  refine ⟨settled, fun _ => fine, fun usable => absurd usable (by simp [lost]), ?_⟩
  exact .faulted fresh bytes fits tk (by simp) own lost

/-- A frame that brings the outcome ends the exchange as it should. -/
lemma finish_ok_sound (fresh : o.state = .encoded) (fit : o.request.frame.Fits)
    (broken : c.broken = c.deferred.isSome) (del : Delivered t o.request.frame.bytes)
    {last : Frame} {rest : Bytes}
    (bytes : received t = (taken ++ [last]).flatMap Frame.bytes ++ rest)
    (fits : ∀ f ∈ taken ++ [last], f.Fits)
    (clean : c.deferred = none → c.ready = [] → c.decoder.isIdle = true → rest = [])
    (tk : Takes o.beginSend.operation taken p (prior ++ events)) {news : List Event}
    {progress : Operation.Progress}
    (e : p.onFrame last = { operation := q, events := news, result := .ok progress })
    (outcome : progress ≠ .more) (term : q.isTerminal = true) :
    (finish c q (events ++ news) (.ok ())).Sound o t
      (prior ++ (finish c q (events ++ news) (.ok ())).events) := by
  obtain ⟨ended, turn, rfl, fine, usable⟩ := finish_ok c q (events ++ news)
  have noFault (ok : c.broken = false) : c.deferred = none := by simpa [broken] using ok
  rw [turn]
  refine ⟨term, fun _ => fine, ?_, ?_⟩
  · intro u
    obtain ⟨ok, _, _, ready, idle, deferred⟩ := usable u
    exact ⟨ready, idle, deferred.trans (noFault ok)⟩
  · refine .answered fresh fit del bytes fits tk e outcome (by simp) ?_
    intro u
    obtain ⟨ok, ready, idle, _⟩ := usable u
    exact clean (noFault ok) ready idle

/-- Where the frames that were read are used up, the exchange waits for more input or ends with the
fault that is behind them. -/
lemma drain_nil_sound (fresh : o.state = .encoded) (hears : o.listening = true)
    (fit : o.request.frame.Fits) (inFlight : c.inFlight = true) (closed : c.closed = false)
    (broken : c.broken = c.deferred.isSome) (del : Delivered t o.request.frame.bytes)
    (fed : c.decoder.reset.feed (received t) = ⟨c.decoder, taken, c.deferred⟩)
    (tk : Takes o.beginSend.operation taken p (prior ++ events)) :
    (drain c p events []).Sound o t (prior ++ (drain c p events []).events) := by
  unfold drain
  cases deferred : c.deferred with
  | none =>
    rw [deferred] at broken fed
    simp only
    exact ⟨fresh, hears, fit, inFlight, broken, closed, rfl, rfl, del, taken, fed, tk⟩
  | some fault =>
    -- The fault is one of a length, which breaks the connection and is no error of the server.
    obtain ⟨fits, rest, bytes, _⟩ := Decoder.feed_sound c.decoder.isIdle_reset (received t)
    have isFault : (c.decoder.reset.feed (received t)).fault = some fault := by rw [fed, deferred]
    obtain ⟨declared, refusal⟩ := Decoder.feedFrom_fault isFault
    have own := Decoder.Limits.serverError?_of_check refusal
    have bad : c.broken = true := by rw [broken, deferred, Option.isSome_some]
    rw [fed] at fits bytes
    have aw := (awaiting_begun fresh hears).takes tk
    simp only
    exact finish_error_sound fresh bytes fits tk aw own (.inr bad)

/-- The frames that were read are taken as far as they leave more to come. -/
lemma drain_sound (fresh : o.state = .encoded) (hears : o.listening = true)
    (fit : o.request.frame.Fits) (inFlight : c.inFlight = true) (closed : c.closed = false)
    (broken : c.broken = c.deferred.isSome) (del : Delivered t o.request.frame.bytes)
    (fed : c.decoder.reset.feed (received t) = ⟨c.decoder, taken ++ frames, c.deferred⟩)
    (tk : Takes o.beginSend.operation taken p (prior ++ events)) :
    (drain c p events frames).Sound o t (prior ++ (drain c p events frames).events) := by
  -- One frame after the other moves from `frames` to `taken`.
  induction frames generalizing taken p events with
  | nil => exact drain_nil_sound fresh hears fit inFlight closed broken del (by simpa using fed) tk
  | cons frame frames ih =>
    have aw := (awaiting_begun fresh hears).takes tk
    obtain ⟨fits, rest, bytes, clean⟩ := Decoder.feed_sound c.decoder.isIdle_reset (received t)
    rw [fed] at fits bytes clean
    have fitsTaken : ∀ f ∈ taken, f.Fits := fun f m => fits f (by simp [m])
    have fitsLast : ∀ f ∈ taken ++ [frame], f.Fits := by
      intro f m
      apply fits f
      simp only [List.mem_append, List.mem_cons] at m ⊢
      tauto
    have bytesTaken : received t =
        taken.flatMap Frame.bytes ++ ((frame :: frames).flatMap Frame.bytes ++ rest) := by
      simpa using bytes
    have bytesLast : received t =
        (taken ++ [frame]).flatMap Frame.bytes ++ (frames.flatMap Frame.bytes ++ rest) := by
      simpa using bytes
    have cleanLast : c.deferred = none → frames = [] → c.decoder.isIdle = true →
        frames.flatMap Frame.bytes ++ rest = [] := by
      intro noFault none_ idle
      simp [none_, clean noFault idle]
    have onFrame := aw.onFrame_taken frame
    simp only [drain]
    generalize e : p.onFrame frame = step at onFrame
    cases onFrame with
    | unread _ =>
      simp only [List.append_nil]
      exact finish_error_sound fresh bytesTaken fitsTaken tk aw.counted rfl (.inl rfl)
    | @rejected _ _ accumulator _ _ _ =>
      have aw' : ({ p.counted with accumulator } : Operation).Awaiting :=
        ⟨aw.counted.waits, aw.hears⟩
      simp only [List.append_nil]
      exact finish_error_sound fresh bytesTaken fitsTaken tk aw' rfl (.inl rfl)
    | refused _ =>
      exact finish_ok_sound (c := { c with ready := frames, lastServerError := _ }) fresh fit broken
        del bytesLast fitsLast cleanLast tk e nofun rfl
    | last _ _ =>
      exact finish_ok_sound (c := { c with ready := frames }) fresh fit broken del bytesLast fitsLast
        cleanLast tk e nofun rfl
    | fragment _ _ =>
      have tk' := Takes.snoc tk e
      rw [List.append_assoc] at tk'
      exact ih (by simpa using fed) tk'

end drain

section start

variable {o : Operation} {c : Connection}

/-- An exchange of a new operation asks for its request to be written, or ends with a request that is
too long to be written. -/
lemma start_fresh_sound (fresh : o.state = .encoded) (hears : o.listening = true)
    (term : o.isTerminal = false) (usable : c.isUsable = true) (idle : c.InStep) :
    (start c o).Sound o [] (start c o).events := by
  have nothing : c.hasBufferedInput = false := by
    simp [Connection.hasBufferedInput, idle.ready, idle.idle]
  obtain ⟨broken, closed, _⟩ := Connection.isUsable_iff.1 usable
  have aw := awaiting_begun fresh hears
  have begun : o.beginSend =
      { operation := o.beginSend.operation, result := .ok o.request.frame } := by
    simp [Operation.beginSend, fresh]
  simp only [start, term, usable, nothing, Bool.not_true, Bool.false_eq_true, if_false]
  rw [begun]
  simp only [Except.bind]
  cases enc : o.request.frame.encode with
  | error fault =>
    obtain ⟨cause, rfl⟩ := Frame.encode_error enc
    have tk : Takes o.beginSend.operation [] o.beginSend.operation ([] ++ []) := .nil
    exact finish_error_sound fresh rfl (by simp) tk aw rfl (.inl rfl)
  | ok bytes =>
    obtain ⟨fits, rfl⟩ := Frame.encode_eq_ok_iff.1 enc
    exact ⟨fresh, hears, fits, rfl, broken, closed, idle.ready, idle.deferred,
      ⟨rfl, Frame.bytes_ne_nil _, rfl⟩, [], Decoder.feed_reset_nil idle.idle, .nil⟩

/-- An exchange of an operation whose request was sent before asks for nothing and leaves the
connection in step. -/
lemma start_bound_sound (bound : o.state ≠ .encoded) (hears : o.listening = true)
    (term : o.isTerminal = false) (usable : c.isUsable = true) (idle : c.InStep) :
    (start c o).Sound o [] (start c o).events := by
  have nothing : c.hasBufferedInput = false := by
    simp [Connection.hasBufferedInput, idle.ready, idle.idle]
  have refused : o.beginSend =
      { operation := o, result := .error (.binding .alreadyBound) } := by
    simp [Operation.beginSend, bound, term]
  have aw : o.Awaiting := ⟨Operation.State.isWaiting_of_open bound term, hears⟩
  have inStep : ({ c with inFlight := true } : Connection).InStep :=
    ⟨idle.ready, idle.idle, idle.deferred⟩
  obtain ⟨e, turn, settled, fine, kept, _⟩ :=
    finish_error (c := { c with inFlight := true }) aw [] (.binding .alreadyBound)
  simp only [start, term, usable, nothing, Bool.not_true, Bool.false_eq_true, if_false, refused,
    Except.bind, turn]
  refine ⟨settled, fun _ => fine, fun _ => kept inStep, .unbegun rfl ?_⟩
  simp [Fault.serverError?]

/-- An exchange starts as it should, over a connection that holds no input if it can be used. -/
lemma start_sound (att : o.Attended) (inStep : c.isUsable = true → c.InStep) :
    (start c o).Sound o [] (start c o).events := by
  cases term : o.isTerminal with
  | true =>
    simp only [start, if_pos term]
    exact ⟨term, fun open_ => absurd term (by simp [open_]), inStep, .unbegun rfl (by simp)⟩
  | false =>
    have hears := att.hears term
    cases usable : c.isUsable with
    | false =>
      simp only [start, term, usable, Bool.not_false, Bool.false_eq_true, if_false, if_true,
        Operation.fail_of_open term hears]
      refine ⟨rfl, fun _ => nofun, fun u => absurd u (by simp [usable]), .unbegun rfl ?_⟩
      simp [Fault.serverError?]
    | true =>
      by_cases fresh : o.state = .encoded
      · exact start_fresh_sound fresh hears term usable (inStep usable)
      · exact start_bound_sound fresh hears term usable (inStep usable)

end start

/-! ### Answers of the transport -/

section answers

variable {o : Operation} {x : Exchange} {t t' : Traffic} {heard : List Event}

/-- While an exchange is under way its operation waits for the outcome. -/
lemma Underway.awaiting (u : Underway o x t heard) : x.operation.Awaiting := by
  obtain ⟨taken, _, tk⟩ := u.answer
  exact (awaiting_begun u.fresh u.hears).takes tk

/-- What is out is the beginning of the request. -/
lemma Underway.accepted_prefix (u : Underway o x t heard) :
    t.accepted <+: o.request.frame.bytes := by
  have request := u.request
  unfold Sent at request
  split at request
  · exact ⟨_, request.1⟩
  · exact request.1 ▸ List.prefix_rfl
  · exact request.accepted ▸ List.prefix_rfl

/-- Where a write is waited for, some of the request is missing. -/
lemma Underway.writing (u : Underway o x t heard) {bytes : Bytes} (await : x.await = .write bytes) :
    t.accepted ≠ o.request.frame.bytes := by
  have request := u.request
  unfold Exchange.await at await
  cases phase : x.phase with
  | receiving => simp [phase] at await
  | sending sending =>
    cases sending with
    | flushing => simp [phase, Sending.await] at await
    | writing rest =>
      rw [phase] at request
      obtain ⟨out, more, _⟩ := request
      intro all
      rw [← all] at out
      exact more (by simpa using out)

/-- A fault between two reads ends an exchange as it should. -/
lemma Underway.fault (u : Underway o x t heard) (same : received t' = received t)
    {c : Connection} {fault : Fault} (own : fault.serverError? = none)
    (bad : fault.isFatal = true ∨ c.broken = true) :
    (finish c x.operation [] (.error fault)).Sound o t'
      (heard ++ (finish c x.operation [] (.error fault)).events) := by
  obtain ⟨taken, fed, tk⟩ := u.answer
  obtain ⟨fits, rest, bytes, _⟩ :=
    Decoder.feed_sound x.connection.decoder.isIdle_reset (received t)
  rw [fed] at fits bytes
  exact finish_error_sound u.fresh (same.trans bytes) fits (by simpa using tk) u.awaiting own bad

/-- An exchange that goes on waiting without input does so as it should. -/
lemma Underway.still (u : Underway o x t heard) (same : received t' = received t) {phase : Phase}
    (request : Sent o.request.frame.bytes t' phase) :
    Underway o { x with phase } t' heard := by
  obtain ⟨taken, fed, tk⟩ := u.answer
  exact ⟨u.fresh, u.hears, u.fits, u.inFlight, u.broken, u.closed, u.ready, u.deferred, request, taken,
    same.symm ▸ fed, tk⟩

/-- Where no input has come and the request is out, the answer is waited for. -/
lemma Underway.drain (u : Underway o x t heard) (same : received t' = received t)
    (del : Delivered t' o.request.frame.bytes) :
    (Exchange.drain x.connection x.operation [] x.connection.ready).Sound o t'
      (heard ++ (Exchange.drain x.connection x.operation [] x.connection.ready).events) := by
  obtain ⟨taken, fed, tk⟩ := u.answer
  rw [u.ready]
  refine drain_nil_sound u.fresh u.hears u.fits u.inFlight u.closed ?_ del ?_ (by simpa using tk)
  · rw [u.broken, u.deferred]
    rfl
  · rw [same, fed, u.deferred]

/-- While the request is written, an exchange goes on as it should. -/
lemma Underway.resume_writing (u : Underway o x t heard) {rest : Bytes}
    (phase : x.phase = .sending (.writing rest)) (answer : Completion) :
    (x.resume answer).Sound o (t ++ [(.write rest, some answer)])
      (heard ++ (x.resume answer).events) := by
  have request := u.request
  rw [phase] at request
  obtain ⟨bytes, more, unread⟩ := request
  have quiet : received (t ++ [(.write rest, some answer)]) = received t := by simp [received]
  simp only [Exchange.resume, phase]
  cases answer with
  | wrote count =>
    simp only [Sending.resume]
    have taken : accepted (t ++ [(.write rest, some (.wrote count))]) =
        accepted t ++ rest.take count := by simp [accepted]
    by_cases zero : count = 0
    · simp only [if_pos zero]
      exact u.fault quiet rfl (.inl rfl)
    · simp only [if_neg zero]
      by_cases all : rest.length ≤ count
      · simp only [if_pos all, List.append_nil]
        refine u.still quiet ⟨?_, quiet.trans unread⟩
        rw [taken, List.take_of_length_le all, bytes]
      · simp only [if_neg all, List.append_nil]
        refine u.still quiet ⟨?_, ?_, quiet.trans unread⟩
        · rw [taken, List.append_assoc, List.take_append_drop, bytes]
        · simpa using all
  | failed cause => exact u.fault quiet rfl (.inl rfl)
  | flushed | received chunk =>
    simp only [Sending.resume, List.append_nil]
    refine u.still quiet ⟨?_, more, quiet.trans unread⟩
    simpa [accepted] using bytes

/-- While the request is flushed, an exchange goes on as it should. -/
lemma Underway.resume_flushing (u : Underway o x t heard) (phase : x.phase = .sending .flushing)
    (answer : Completion) :
    (x.resume answer).Sound o (t ++ [(.flush, some answer)])
      (heard ++ (x.resume answer).events) := by
  have request := u.request
  rw [phase] at request
  obtain ⟨bytes, unread⟩ := request
  have quiet : received (t ++ [(.flush, some answer)]) = received t := by simp [received]
  simp only [Exchange.resume, phase]
  cases answer with
  | flushed => exact u.drain quiet ⟨t, [], rfl, bytes, rfl⟩
  | failed cause => exact u.fault quiet rfl (.inl rfl)
  | wrote count | received chunk =>
    simp only [Sending.resume, List.append_nil]
    refine u.still quiet ⟨?_, quiet.trans unread⟩
    simpa [accepted] using bytes

/-- While the answer is read, an exchange goes on as it should. -/
lemma Underway.resume_receiving (u : Underway o x t heard) (phase : x.phase = .receiving)
    (answer : Completion) :
    (x.resume answer).Sound o (t ++ [(.read, some answer)]) (heard ++ (x.resume answer).events) := by
  have del := u.request
  rw [phase] at del
  have del' : Delivered (t ++ [(.read, some answer)]) o.request.frame.bytes := del.snoc rfl
  simp only [Exchange.resume, phase]
  cases answer with
  | received chunk =>
    cases chunk with
    | nil => exact u.fault (by simp [received]) rfl (.inl rfl)
    | cons b chunk =>
      obtain ⟨taken, fed, tk⟩ := u.answer
      have grown : received (t ++ [(.read, some (.received (b :: chunk)))]) =
          received t ++ b :: chunk := by simp [received]
      have fed' := Decoder.feed_append fed (b :: chunk)
      have kept : (x.connection.decoder.feed (b :: chunk)).decoder.reset =
          x.connection.decoder.reset := by
        simp [Decoder.reset, Decoder.feed, Decoder.feedFrom_limits]
      simp only [Connection.afterReading]
      refine drain_sound (c := x.connection.receive (b :: chunk)) u.fresh u.hears u.fits
        u.inFlight u.closed ?_ del' ?_ (by simpa using tk)
      · simp [Connection.receive, u.broken, u.deferred]
      · rw [grown]
        simpa [Connection.receive, u.ready, u.deferred, kept] using fed'
  | failed cause => exact u.fault (by simp [received]) rfl (.inl rfl)
  | wrote count | flushed => exact u.drain (by simp [received]) del'

/-- An exchange goes on as it should, whatever the transport answers. -/
lemma Underway.resume (u : Underway o x t heard) (answer : Completion) :
    (x.resume answer).Sound o (t ++ [(x.await, some answer)])
      (heard ++ (x.resume answer).events) := by
  unfold await
  cases phase : x.phase with
  | receiving => exact u.resume_receiving phase answer
  | sending sending =>
    cases sending with
    | writing rest => exact u.resume_writing phase answer
    | flushing => exact u.resume_flushing phase answer

/-- An exchange ends as it should where its deadline passes. -/
lemma Underway.expire (u : Underway o x t heard) :
    x.expire.Sound o (t ++ [(x.await, none)]) (heard ++ x.expire.events) :=
  u.fault (by simp [received]) rfl (.inl rfl)

end answers

/-! ### The number of the connection -/

/-- The connection of an exchange after a turn. -/
def Turn.connection (turn : Turn) : Connection :=
  match turn.progress with
  | .waiting x => x.connection
  | .ended e => e.connection

/-- The end of an exchange leaves its connection the number. -/
lemma finish_id (c : Connection) (o : Operation) (events : List Event)
    (outcome : Except Fault Unit) : (finish c o events outcome).connection.id = c.id := by
  unfold finish
  cases outcome with
  | ok u =>
    show (if _ then _ else _ : Connection).id = _
    split <;> rfl
  | error fault =>
    show (if _ then _ else _ : Connection).id = _
    split <;> rfl

/-- The frames of a read leave the connection its number. -/
lemma drain_id (c : Connection) (o : Operation) (events : List Event) (frames : List Frame) :
    (drain c o events frames).connection.id = c.id := by
  induction frames generalizing o events with
  | nil =>
    unfold drain
    split
    · exact finish_id ..
    · rfl
  | cons frame frames ih =>
    simp only [drain]
    split
    · exact finish_id ..
    · exact ih ..
    · exact finish_id ..
    · exact finish_id ..

/-- The beginning of an exchange leaves its connection the number. -/
lemma start_id (c : Connection) (o : Operation) : (start c o).connection.id = c.id := by
  unfold start
  split
  · rfl
  · split
    · rfl
    · split
      · rfl
      · dsimp only
        split
        · exact finish_id ..
        · rfl

/-- An answer of the transport leaves the connection its number. -/
lemma resume_id (x : Exchange) (answer : Completion) :
    (x.resume answer).connection.id = x.connection.id := by
  unfold resume
  split
  · split
    · rfl
    · rename_i result _
      cases result with
      | ok u => exact drain_id ..
      | error fault => exact finish_id ..
  · have kept : (x.connection.afterReading answer).1.id = x.connection.id := by
      unfold Connection.afterReading
      split <;> rfl
    split
    · rename_i e
      rw [e] at kept
      exact (finish_id ..).trans kept
    · rename_i e
      rw [e] at kept
      exact (drain_id ..).trans kept

end Exchange

end StoreClient
