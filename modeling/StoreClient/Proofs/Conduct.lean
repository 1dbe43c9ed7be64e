import Mathlib
import StoreClient.Proofs.Delivery
import StoreClient.Proofs.Exchange

/-!
# What exchanges do to their operations

All that an exchange does to its operation is to make calls on it (`Operation.Leads`): it begins
it, gives it frames, and fails it with faults of the transfer, unless the connection was no good
from the beginning. While it waits the operation does, and when it ends the operation has its
outcome (`Exchange.Turn.Conducts`). None of this depends on what comes over the connection.

What was told on the way follows from the calls: answers of the kind of the request, errors of the
server, and the faults that the operation was failed with (`Operation.Leads.proper`).
-/

namespace StoreClient

open Operation (Event Call Awaiting Taken)

namespace Operation

/-! ### Calls in turn -/

/-- Calls are made in turn, and the listener hears of the first ones first. -/
lemma run_append (o : Operation) (calls more : List Call) :
    o.run (calls ++ more) =
      { (o.run calls).operation.run more with
        events := (o.run calls).events ++ ((o.run calls).operation.run more).events } := by
  induction calls generalizing o with
  | nil => rfl
  | cons call calls ih => simp [run, ih]

/-- Calls lead from one operation to another, and the listener hears of this. Those that fail the
operation do so with faults that are `P`. -/
def Leads (P : Fault → Prop) (o p : Operation) (heard : List Event) : Prop :=
  ∃ calls : List Call,
    (∀ fault, .fail fault ∈ calls → P fault) ∧
      o.run calls = { operation := p, events := heard, result := () }

section Leads

variable {P : Fault → Prop} {o p q : Operation} {heard events : List Event}

/-- No call leads nowhere else, and nothing is heard. -/
lemma Leads.refl (P : Fault → Prop) (o : Operation) : Leads P o o [] := ⟨[], by simp, rfl⟩

/-- One more call is made. -/
lemma Leads.call (h : Leads P o p heard) (call : Call)
    (met : ∀ fault, call = .fail fault → P fault) :
    Leads P o (p.perform call).operation (heard ++ (p.perform call).events) := by
  obtain ⟨calls, fine, e⟩ := h
  refine ⟨calls ++ [call], ?_, ?_⟩
  · intro fault m
    rcases List.mem_append.1 m with old | new
    · exact fine fault old
    · exact met fault (List.mem_singleton.1 new).symm
  · rw [run_append, e]
    simp [run]

/-- The operation begins to be sent. -/
lemma Leads.begin (h : Leads P o p heard) :
    Leads P o p.beginSend.operation (heard ++ p.beginSend.events) :=
  h.call .beginSend (by simp)

/-- The operation takes a frame. -/
lemma Leads.frame {result : Except Fault Progress} {frame : Frame} (h : Leads P o p heard)
    (e : p.onFrame frame = { operation := q, events, result }) : Leads P o q (heard ++ events) := by
  have more := h.call (.onFrame frame) (by simp)
  simp only [perform, e] at more
  exact more

/-- The operation is failed, and its listener hears so. -/
lemma Leads.fail {fault : Fault} (h : Leads P o p heard) (open_ : p.isTerminal = false)
    (hears : p.listening = true) (met : P fault) :
    Leads P o { p with state := .failed, listening := false } (heard ++ [.fault fault]) := by
  have more := h.call (.fail fault) (by rintro _ ⟨⟩; exact met)
  simp only [perform, fail_of_open open_ hears] at more
  exact more

end Leads

/-! ### What is told -/

/-- An event that is in order for a request of this kind, where calls fail the operation with faults
that are `P`. -/
def Event.Proper (kind : ResponseKind) (P : Fault → Prop) : Event → Prop
  | .response r _ => kind.Admits r
  | .fault f => f.serverError?.isSome = true ∨ P f

section Proper

variable {P : Fault → Prop} {o : Operation} {fragments : List Response} {whole parts : List Event}

/-- Nothing is told when the request is begun. -/
lemma beginSend_events (o : Operation) : o.beginSend.events = [] := by
  unfold beginSend
  split
  · rfl
  · split <;> rfl

/-- A frame that is not waited for tells nothing. -/
lemma onFrame_events (waits : o.state.isWaiting = false) (frame : Frame) :
    (o.onFrame frame).events = [] := by
  unfold onFrame
  split
  · rfl
  · rw [waits]
    rfl

/-- A failure tells of the fault that it was made with, if of anything. -/
lemma proper_fail {fault : Fault} (met : P fault) (o : Operation) (kind : ResponseKind) :
    ∀ e ∈ (o.fail fault).events, e.Proper kind P := by
  intro e m
  unfold fail at m
  split at m
  · cases m
  · dsimp only at m
    split at m
    · cases List.mem_singleton.1 m
      exact Or.inr met
    · cases m

/-- A frame tells of what is in order, on both sides. -/
lemma Tidy.proper_onFrame (h : o.Tidy) (P : Fault → Prop) (waits : o.state.isWaiting = true)
    (frame : Frame) :
    (∀ e ∈ (o.onFrame frame).events, e.Proper o.kind P) ∧
      ∀ e ∈ (o.inParts.onFrame frame).events, e.Proper o.kind P := by
  have parted := h.onFrame_parted waits frame
  generalize o.onFrame frame = a, o.inParts.onFrame frame = b at parted
  cases parted with
  | unread _ => exact ⟨List.forall_mem_nil _, List.forall_mem_nil _⟩
  | @refused error _ =>
    have server : (Event.fault (.server error)).Proper o.kind P := Or.inl rfl
    exact ⟨List.forall_mem_singleton.2 server, List.forall_mem_singleton.2 server⟩
  | fragment read _ =>
    exact ⟨List.forall_mem_nil _, List.forall_mem_singleton.2 (ResponseKind.read_admits read)⟩
  | last read j =>
    obtain ⟨joined, j', admits⟩ := h.join read
    obtain rfl := Except.ok.inj (j.symm.trans j')
    exact ⟨List.forall_mem_singleton.2 admits,
      List.forall_mem_singleton.2 (ResponseKind.read_admits read)⟩

/-- A call tells of what is in order, on both sides. -/
lemma Tidy.proper_perform (h : o.Tidy) (call : Call) (met : ∀ fault, call = .fail fault → P fault) :
    (∀ e ∈ (o.perform call).events, e.Proper o.kind P) ∧
      ∀ e ∈ (o.inParts.perform call).events, e.Proper o.kind P := by
  cases call with
  | beginSend => simp [perform, beginSend_events]
  | fail fault =>
    have met := met fault rfl
    exact ⟨proper_fail met o o.kind, proper_fail met o.inParts o.kind⟩
  | onFrame frame =>
    cases waits : o.state.isWaiting with
    | true => exact h.proper_onFrame P waits frame
    | false =>
      have waits' : o.inParts.state.isWaiting = false := waits
      simp [perform, onFrame_events waits, onFrame_events waits']

/-- Calls tell of what is in order, on both sides. -/
lemma Matched.proper_run (h : Matched o fragments whole parts) {calls : List Call}
    (met : ∀ fault, .fail fault ∈ calls → P fault) :
    (∀ e ∈ (o.run calls).events, e.Proper o.kind P) ∧
      ∀ e ∈ (o.inParts.run calls).events, e.Proper o.kind P := by
  induction calls generalizing o fragments whole parts with
  | nil => exact ⟨List.forall_mem_nil _, List.forall_mem_nil _⟩
  | cons call calls ih =>
    obtain ⟨first, first'⟩ := h.tidy.proper_perform call fun fault e => met fault (by simp [e])
    obtain ⟨operation, _, fragments', next⟩ := h.perform call
    obtain ⟨rest, rest'⟩ := ih next fun fault m => met fault (List.mem_cons_of_mem _ m)
    have kind : (o.perform call).operation.kind = o.kind :=
      congrArg EncodedRequest.kind (o.perform_request call)
    rw [kind] at rest rest'
    simp only [Operation.run, operation]
    exact ⟨List.forall_mem_append.2 ⟨first, rest⟩, List.forall_mem_append.2 ⟨first', rest'⟩⟩

/-- Calls on the operation of a request tell of answers of its kind, of errors of the server, and of
faults that are `P` where those are that fail it. -/
lemma Leads.proper {request : Request} {delivery : Delivery} {p : Operation} {heard : List Event}
    (h : Leads P (ofRequest request delivery) p heard) :
    ∀ e ∈ heard, e.Proper request.responseKind P := by
  obtain ⟨calls, met, run⟩ := h
  have proper := (matched_ofRequest request).proper_run met
  rw [show heard = ((ofRequest request delivery).run calls).events by rw [run]]
  cases delivery with
  | merged => exact proper.1
  | perFragment => exact proper.2

/-- Where calls have led the operation of a request to its outcome, that is the last that is
told. -/
lemma Leads.settled {request : Request} {delivery : Delivery} {p : Operation} {heard : List Event}
    (h : Leads P (ofRequest request delivery) p heard) (term : p.isTerminal = true) :
    (p.state = .done ∧ ∃ (fragments : List Response) (r : Response),
        (delivery = .merged → fragments = []) ∧
          heard = fragments.map (.response · false) ++ [.response r true]) ∨
      (p.state = .failed ∧ ∃ (fragments : List Response) (fault : Fault),
        (delivery = .merged → fragments = []) ∧
          heard = fragments.map (.response · false) ++ [.fault fault]) := by
  obtain ⟨calls, _, run⟩ := h
  obtain ⟨same, _, fragments, h⟩ := (matched_ofRequest request).run calls
  rw [List.nil_append, List.nil_append] at h
  cases delivery with
  | merged =>
    rw [run] at h
    cases state : p.state with
    | done =>
      obtain ⟨_, _, joined, _, told, _⟩ := h.complete state
      exact .inl ⟨rfl, [], joined, fun _ => rfl, told⟩
    | failed =>
      obtain ⟨fault, told, _⟩ := h.failed state
      exact .inr ⟨rfl, [], fault, fun _ => rfl, told⟩
    | encoded | sent | receiving | streaming =>
      simp [isTerminal, state, State.isTerminal] at term
  | perFragment =>
    change ((ofRequest request .perFragment).run calls).operation = _ at same
    change Matched _ fragments _ ((ofRequest request .perFragment).run calls).events at h
    rw [run] at h same
    change p = _ at same
    have state' : p.state = ((ofRequest request .merged).run calls).operation.state := by
      rw [same, inParts_state]
    cases state : p.state with
    | done =>
      obtain ⟨before, last, _, _, _, told, _⟩ := h.complete (state'.symm.trans state)
      exact .inl ⟨rfl, before, last, by simp, told⟩
    | failed =>
      obtain ⟨fault, _, told⟩ := h.failed (state'.symm.trans state)
      exact .inr ⟨rfl, fragments, fault, by simp, told⟩
    | encoded | sent | receiving | streaming =>
      simp [isTerminal, state, State.isTerminal] at term

end Proper

end Operation

/-! ### Faults of the transfer -/

/-- A frame is lost by a fault of writing. -/
lemma Sending.resume_error {s : Sending} {answer : Completion} {fault : Fault}
    (e : s.resume answer = .ended (.error fault)) : ∃ cause, fault = .write cause := by
  unfold resume at e
  split at e
  · split at e
    · cases e
      exact ⟨_, rfl⟩
    · split at e <;> cases e
  · cases e
    exact ⟨_, rfl⟩
  · cases e
  · cases e
    exact ⟨_, rfl⟩
  · cases e

namespace Connection

/-- Input does not come because of the transfer. -/
lemma afterReading_fault {c c' : Connection} {answer : Completion} {fault : Fault}
    (e : c.afterReading answer = (c', some fault)) : fault.IsTransfer := by
  unfold afterReading at e
  split at e
  · cases e
    exact ⟨rfl, by simp⟩
  · cases e
  · cases e
    exact ⟨rfl, by simp⟩
  · cases e

/-- Reading does not change whether an exchange is under way. -/
lemma afterReading_inFlight (c : Connection) (answer : Completion) :
    (c.afterReading answer).1.inFlight = c.inFlight := by
  unfold afterReading
  split <;> rfl

/-- A fault that waits behind the frames is one of the transfer, or it has waited before. -/
lemma afterReading_deferred {c : Connection} {answer : Completion} {fault : Fault}
    (m : fault ∈ (c.afterReading answer).1.deferred) : fault.IsTransfer ∨ fault ∈ c.deferred := by
  unfold afterReading at m
  split at m
  · exact .inr m
  · rename_i chunk _
    change (c.decoder.feed chunk).fault.or c.deferred = some fault at m
    cases e : (c.decoder.feed chunk).fault with
    | none =>
      rw [e] at m
      exact .inr m
    | some found =>
      rw [e] at m
      cases m
      obtain ⟨declared, refusal⟩ := Decoder.feedFrom_fault e
      exact .inl (Decoder.Limits.isTransfer_of_check refusal)
  · exact .inr m
  · exact .inr m

end Connection

namespace Exchange

/-! ### Turns -/

/-- An exchange that waits while its operation does. -/
structure Carrying (P : Fault → Prop) (o : Operation) (x : Exchange) (heard : List Event) :
    Prop where
  awaiting : x.operation.Awaiting
  inFlight : x.connection.inFlight = true
  deferred : ∀ fault ∈ x.connection.deferred, fault.IsTransfer
  leads : Operation.Leads P o x.operation heard

/-- What an exchange leaves that has led its operation to the outcome. -/
structure Concluded (P : Fault → Prop) (o : Operation) (e : Ended) (heard : List Event) :
    Prop where
  leads : Operation.Leads P o e.operation heard
  settled : e.operation.isTerminal = true
  result : e.result = .ok e.operation.state
  unbuffered : e.connection.isUsable = true → e.connection.hasBufferedInput = false

/-- An exchange after a turn has led its operation to where it waits too, or to its outcome. -/
def Turn.Conducts (P : Fault → Prop) (o : Operation) (turn : Turn) (heard : List Event) : Prop :=
  match turn.progress with
  | .waiting x => Carrying P o x heard
  | .ended e => Concluded P o e heard

section turns

variable {P : Fault → Prop} {o p : Operation} {c : Connection} {x : Exchange}
  {heard prior events : List Event}

/-- An exchange that ends with the outcome has kept to the calls. -/
lemma finish_ok_conducts (term : p.isTerminal = true)
    (h : Operation.Leads P o p (prior ++ events)) :
    (finish c p events (.ok ())).Conducts P o (prior ++ (finish c p events (.ok ())).events) := by
  refine ⟨h, term, rfl, ?_⟩
  dsimp only
  split
  · simp [Connection.isUsable, Connection.markBroken]
  · rename_i nothing
    exact fun _ => by simpa using nothing

variable (transfer : ∀ fault : Fault, fault.IsTransfer → P fault)
include transfer

/-- An exchange that ends with a fault has kept to the calls, the last of which failed it. -/
lemma finish_error_conducts (aw : p.Awaiting) (h : Operation.Leads P o p (prior ++ events))
    {fault : Fault} (met : fault.IsTransfer) :
    (finish c p events (.error fault)).Conducts P o
      (prior ++ (finish c p events (.error fault)).events) := by
  simp only [finish, Operation.fail_of_open aw.isTerminal aw.hears, if_pos met.1]
  have failed := h.fail aw.isTerminal aw.hears (transfer fault met)
  rw [List.append_assoc] at failed
  refine ⟨failed, rfl, rfl, fun usable => ?_⟩
  simp [Connection.isUsable, Connection.markBroken] at usable

/-- The frames that were read are taken as far as they leave more to come. -/
lemma drain_conducts (aw : p.Awaiting) (h : Operation.Leads P o p (prior ++ events))
    (inFlight : c.inFlight = true) (deferred : ∀ fault ∈ c.deferred, fault.IsTransfer)
    (frames : List Frame) :
    (drain c p events frames).Conducts P o (prior ++ (drain c p events frames).events) := by
  induction frames generalizing p events with
  | nil =>
    unfold drain
    cases waits : c.deferred with
    | none => exact ⟨aw, inFlight, by simp, h⟩
    | some fault => exact finish_error_conducts transfer aw h (deferred fault waits)
  | cons frame frames ih =>
    have taken := aw.onFrame_taken frame
    simp only [drain]
    generalize e : p.onFrame frame = step at taken
    have next {q : Operation} {news : List Event} {result : Except Fault Operation.Progress}
        (e : p.onFrame frame = { operation := q, events := news, result }) :
        Operation.Leads P o q (prior ++ (events ++ news)) := by
      rw [← List.append_assoc]
      exact h.frame e
    cases taken with
    | unread _ => exact finish_error_conducts transfer aw.counted (next e) ⟨rfl, by simp⟩
    | @rejected _ _ accumulator _ _ _ =>
      have aw' : ({ p.counted with accumulator } : Operation).Awaiting :=
        ⟨aw.counted.waits, aw.hears⟩
      exact finish_error_conducts transfer aw' (next e) ⟨rfl, by simp⟩
    | refused _ => exact finish_ok_conducts rfl (next e)
    | fragment _ _ => exact ih ⟨rfl, aw.hears⟩ (next e)
    | last _ _ => exact finish_ok_conducts rfl (next e)

/-- An exchange of a new operation begins it, or fails it where the connection is no good. -/
lemma start_conducts (fresh : o.state = .encoded) (hears : o.listening = true)
    (refused : c.isUsable = false → P (.binding (.notUsable c.id)))
    (stale : c.isUsable = true → c.hasBufferedInput = true → P .unexpectedResponse)
    (inStep : c.isUsable = true → c.hasBufferedInput = false → c.InStep) :
    (start c o).Conducts P o (start c o).events := by
  have open_ : o.isTerminal = false := by
    simp [Operation.isTerminal, fresh, Operation.State.isTerminal]
  have here := Operation.Leads.refl P o
  cases usable : c.isUsable with
  | false =>
    simp only [start, open_, usable, Bool.not_false, Bool.false_eq_true, if_false, if_true,
      Operation.fail_of_open open_ hears]
    exact ⟨here.fail open_ hears (refused usable), rfl, rfl, fun u => absurd u (by simp [usable])⟩
  | true =>
    cases buffered : c.hasBufferedInput with
    | true =>
      simp only [start, open_, usable, buffered, Bool.not_true, Bool.false_eq_true, if_false,
        if_true, Operation.fail_of_open open_ hears]
      refine ⟨here.fail open_ hears (stale usable buffered), rfl, rfl, fun u => ?_⟩
      simp [Connection.isUsable, Connection.markBroken] at u
    | false =>
      have aw := awaiting_begun fresh hears
      have begun : o.beginSend =
          { operation := o.beginSend.operation, result := .ok o.request.frame } := by
        simp [Operation.beginSend, fresh]
      have next : Operation.Leads P o o.beginSend.operation ([] ++ []) := by
        have first := here.begin
        rw [begun] at first
        exact first
      simp only [start, open_, usable, buffered, Bool.not_true, Bool.false_eq_true, if_false]
      rw [begun]
      simp only [Except.bind]
      cases enc : o.request.frame.encode with
      | ok bytes =>
        have none_ := (inStep usable buffered).deferred
        exact ⟨aw, rfl, by simp [none_], next⟩
      | error fault =>
        obtain ⟨cause, rfl⟩ := Frame.encode_error enc
        exact finish_error_conducts transfer aw next ⟨rfl, by simp⟩

/-- Whatever the transport answers, the exchange goes on or ends with the outcome. -/
lemma Carrying.resume (h : Carrying P o x heard) (answer : Completion) :
    (x.resume answer).Conducts P o (heard ++ (x.resume answer).events) := by
  have here : Operation.Leads P o x.operation (heard ++ []) := by simpa using h.leads
  unfold Exchange.resume
  cases x.phase with
  | sending sending =>
    dsimp only
    cases next : sending.resume answer with
    | more sending => exact ⟨h.awaiting, h.inFlight, h.deferred, here⟩
    | ended result =>
      cases result with
      | ok u => exact drain_conducts transfer h.awaiting here h.inFlight h.deferred _
      | error fault =>
        obtain ⟨cause, rfl⟩ := Sending.resume_error next
        exact finish_error_conducts transfer h.awaiting here ⟨rfl, by simp⟩
  | receiving =>
    dsimp only
    generalize read : x.connection.afterReading answer = after
    obtain ⟨c, fault⟩ := after
    cases fault with
    | some fault =>
      exact finish_error_conducts transfer h.awaiting here (Connection.afterReading_fault read)
    | none =>
      obtain rfl : (x.connection.afterReading answer).1 = c := by rw [read]
      have inFlight := (x.connection.afterReading_inFlight answer).trans h.inFlight
      exact drain_conducts transfer h.awaiting here inFlight
        (fun fault m => (Connection.afterReading_deferred m).elim id (h.deferred fault)) _

/-- Where the deadline passes, that is the outcome. -/
lemma Carrying.expire (h : Carrying P o x heard) :
    x.expire.Conducts P o (heard ++ x.expire.events) := by
  have here : Operation.Leads P o x.operation (heard ++ []) := by simpa using h.leads
  exact finish_error_conducts transfer h.awaiting here ⟨rfl, by simp⟩

/-- Where the exchange is dropped, the listener hears of the closed connection. -/
lemma Carrying.abandon (h : Carrying P o x heard) :
    ∃ p, Operation.Leads P o p (heard ++ x.operation.abandon) := by
  rw [h.awaiting.abandon]
  exact ⟨_, h.leads.fail h.awaiting.isTerminal h.awaiting.hears (transfer _ ⟨rfl, by simp⟩)⟩

end turns

end Exchange

end StoreClient
