import Mathlib
import StoreClient.Proofs.Delivery

/-!
# What an operation refuses

The state of an operation, its listener and its accumulator are kept apart, and whatever is called
they stay in step (`Lockstep`): the listener is there as long as the outcome is open, the
accumulator is done once the answer is complete, and what it holds back is the beginning of a
streaming answer of the kind that the request asks for.

Hence a fragment that can be read is never refused by the accumulator (`Lockstep.takes`). What is
refused is a frame that cannot be read (`ResponseKind.Unreadable`), or that comes to an operation
which waits for none (`Refusal`). The headline is `accumulator_in_step`.
-/

namespace StoreClient

namespace ResponseKind

/-- What is wrong with a frame that cannot be read in answer to a request of this kind. -/
inductive Unreadable (kind : ResponseKind) (frame : Frame) : FormatCause → Prop where
  /-- It is an error frame without an error message. -/
  | error {cause} :
    frame.isError = true →
    Message.decode (α := ErrorResp) frame.payload = .error cause →
    Unreadable kind frame (.undecodableError cause)
  | tag :
    frame.isError = false →
    frame.tag ≠ kind.expectedTag.byte →
    Unreadable kind frame (.unexpectedTag kind.expectedTag.byte frame.tag)
  | payload {cause} :
    frame.isError = false →
    frame.tag = kind.expectedTag.byte →
    kind.decodePayload frame.payload = .error (.format (.undecodable cause)) →
    Unreadable kind frame (.undecodable cause)

variable {kind : ResponseKind} {frame : Frame} {fault : Fault}

/-- An answer spans several frames if it lists buckets, keys, matches or outputs. -/
lemma isStreaming_iff :
    kind.isStreaming = true ↔ kind ∈ [listBuckets, listKeys, mapReduce, indexQuery] := by
  cases kind <;> decide

/-- A frame that is unreadable is refused for what is wrong with it. -/
lemma Unreadable.read {cause : FormatCause} (h : kind.Unreadable frame cause) :
    kind.read frame = .error (.format cause) := by
  unfold ResponseKind.read
  cases h with
  | error refuses undecodable =>
    rw [if_pos refuses]
    simp only [ServerError.decode, undecodable]
    rfl
  | tag answers other =>
    rw [if_neg (by simp [answers])]
    simp only [decode, if_neg other]
    rfl
  | payload answers expected undecodable =>
    rw [if_neg (by simp [answers])]
    simp only [decode, if_pos expected, undecodable]
    rfl

/-- A frame cannot be read for one of these reasons alone. -/
lemma read_eq_error_iff :
    kind.read frame = .error fault ↔
      ∃ cause, fault = .format cause ∧ kind.Unreadable frame cause := by
  constructor
  · intro e
    unfold read at e
    cases refuses : frame.isError with
    | true =>
      rw [if_pos refuses] at e
      cases d : Message.decode (α := ErrorResp) frame.payload with
      | ok m => simp [ServerError.decode, d, Except.map] at e
      | error cause =>
        simp only [ServerError.decode, d, Except.map, Except.error.injEq] at e
        exact ⟨_, e.symm, .error refuses d⟩
    | false =>
      rw [if_neg (by simp [refuses])] at e
      by_cases expected : frame.tag = kind.expectedTag.byte
      · simp only [decode, if_pos expected] at e
        cases d : kind.decodePayload frame.payload with
        | ok decoded => simp [d, Except.map] at e
        | error undecodable =>
          obtain ⟨cause, rfl⟩ := decodePayload_error d
          simp only [d, Except.map, Except.error.injEq] at e
          exact ⟨_, e.symm, .payload refuses expected d⟩
      · simp only [decode, if_neg expected, Except.map, Except.error.injEq] at e
        exact ⟨_, e.symm, .tag refuses expected⟩
  · rintro ⟨cause, rfl, h⟩
    exact h.read

/-- A frame that is no error frame reads as what its tag and payload say. -/
lemma read_of_decode {r : Response} {done : Bool} (answers : frame.isError = false)
    (decoded : kind.decode frame.tag frame.payload = .ok (r, done)) :
    kind.read frame = .ok (.fragment r done) := by
  unfold read
  rw [if_neg (by simp [answers]), decoded]
  rfl

end ResponseKind

namespace Operation

/-! ### In step -/

/-- The state, the listener and the accumulator of an operation agree. -/
structure Lockstep (o : Operation) : Prop where
  attended : o.Attended
  ended : o.accumulator.done = true ↔ o.state = .done
  held : ∀ whole ∈ o.accumulator.held, o.kind.isStreaming = true ∧ o.kind.Admits whole

/-- An operation that merges and whose books are in order is in step. -/
lemma Tidy.lockstep {o : Operation} (h : o.Tidy) : o.Lockstep := ⟨h.attended, h.ended, h.held⟩

/-- An operation that delivers in parts holds nothing back. -/
lemma Tidy.lockstep_inParts {o : Operation} (h : o.Tidy) : o.inParts.Lockstep :=
  ⟨h.attended, h.ended, by simp [inParts]⟩

/-- Whatever is called, and in whatever order, an operation stays in step. -/
lemma lockstep_run (request : Request) (delivery : Delivery) (calls : List Call) :
    ((ofRequest request delivery).run calls).operation.Lockstep := by
  -- An operation that delivers in parts goes the way of one that merges.
  have alike := (matched_ofRequest request).run calls
  change Alike [] [] _ ((ofRequest request .perFragment).run calls) at alike
  obtain ⟨counterpart, _, fragments, merged⟩ := alike
  cases delivery with
  | merged => exact merged.tidy.lockstep
  | perFragment =>
    rw [counterpart]
    exact merged.tidy.lockstep_inParts

section Lockstep

variable {o : Operation} {frame : Frame} {r : Response} {done : Bool} {fault : Fault}

/-- While an operation waits its answer is not complete. -/
lemma Lockstep.open_of_waiting (h : o.Lockstep) (waits : o.state.isWaiting = true) :
    o.accumulator.done = false := by
  rw [Bool.eq_false_iff, ne_eq, h.ended]
  intro e
  rw [e] at waits
  cases waits

/-- A fragment that can be read is taken, and the last one gives a value to be delivered. -/
lemma Lockstep.takes (h : o.Lockstep) (waits : o.state.isWaiting = true)
    (read : o.kind.read frame = .ok (.fragment r done)) :
    ∃ accumulator ready, o.accumulator.push r done = (accumulator, .ok ready) ∧
      (done = true → ready.isSome = true) := by
  have open_ := h.open_of_waiting waits
  cases way : o.accumulator.delivery with
  | perFragment =>
    rw [Accumulator.push_of_perFragment r done way open_]
    exact ⟨_, _, rfl, fun _ => rfl⟩
  | merged =>
    have tidy : o.Tidy := ⟨way, h.attended, h.ended, h.held⟩
    obtain ⟨whole, j, _⟩ := tidy.join read
    rw [Accumulator.push_of_join done way open_ j]
    refine ⟨_, _, rfl, fun last => ?_⟩
    rw [if_pos last]
    rfl

/-! ### Refusals -/

/-- Why an operation refuses a frame. -/
inductive Refusal (o : Operation) (frame : Frame) : Fault → Prop where
  | completed : o.isTerminal = true → Refusal o frame .alreadyCompleted
  | unsent : o.state = .encoded → Refusal o frame (.uninitialized .notSent)
  | unreadable {cause} :
    o.state.isWaiting = true →
    o.kind.Unreadable frame cause →
    Refusal o frame (.format cause)

/-- Where a frame is waited for, it is refused just where it cannot be read. -/
lemma Lockstep.onFrame_error_of_waiting (h : o.Lockstep) (waits : o.state.isWaiting = true) :
    (o.onFrame frame).result = .error fault ↔ o.kind.read frame = .error fault := by
  rw [onFrame_of_waiting waits]
  cases read : o.kind.read frame with
  | error cause => simp only [Except.error.injEq]
  | ok reading =>
    cases reading with
    | refusal error => exact iff_of_false nofun nofun
    | fragment r done =>
      obtain ⟨accumulator, ready, push, _⟩ := h.takes waits read
      have hears : o.counted.listening = true :=
        h.attended.hears (State.isTerminal_of_isWaiting waits)
      simp only [onFragment_of_push (o := o.counted) hears push]
      exact iff_of_false nofun nofun

/-- A frame is refused for one of these reasons alone. -/
lemma Lockstep.onFrame_error_iff (h : o.Lockstep) :
    (o.onFrame frame).result = .error fault ↔ Refusal o frame fault := by
  cases st : o.state with
  | encoded =>
    have refused : o.onFrame frame =
        { operation := o, result := .error (.uninitialized .notSent) } := by
      simp [onFrame, isTerminal, st, State.isTerminal, State.isWaiting]
    rw [refused]
    constructor
    · rintro ⟨⟩
      exact .unsent st
    · intro refusal
      cases refusal with
      | completed term => simp [isTerminal, st, State.isTerminal] at term
      | unsent _ => rfl
      | unreadable waits _ => simp [st, State.isWaiting] at waits
  | done | failed =>
    have term : o.isTerminal = true := by simp [isTerminal, st, State.isTerminal]
    have refused : o.onFrame frame =
        { operation := o, result := .error .alreadyCompleted } := if_pos term
    rw [refused]
    constructor
    · rintro ⟨⟩
      exact .completed term
    · intro refusal
      cases refusal with
      | completed _ => rfl
      | unsent fresh => simp [st] at fresh
      | unreadable waits _ => simp [st, State.isWaiting] at waits
  | sent | receiving | streaming =>
    have waits : o.state.isWaiting = true := by simp [st, State.isWaiting]
    rw [h.onFrame_error_of_waiting waits, ResponseKind.read_eq_error_iff]
    constructor
    · rintro ⟨cause, rfl, unreadable⟩
      exact .unreadable waits unreadable
    · intro refusal
      cases refusal with
      | completed term => simp [isTerminal, st, State.isTerminal] at term
      | unsent fresh => simp [st] at fresh
      | unreadable _ unreadable => exact ⟨_, rfl, unreadable⟩

end Lockstep

/-- Whatever has been called on an operation, and in whatever order: its listener is there exactly
as long as the outcome is open, its accumulator is done exactly where the answer is complete, and
what the accumulator holds back is an answer of the kind that was asked for, which is then a
streaming one. So the accumulator takes every fragment that a frame which is waited for reads as,
and with the last one it has a value to deliver. A frame is refused exactly where the outcome is
settled, where the request was not sent, or where it cannot be read: for its tag, its payload or its
error message. -/
theorem accumulator_in_step (request : Request) (delivery : Delivery) (calls : List Call) :
    let o := ((ofRequest request delivery).run calls).operation
    (o.listening = true ↔ o.isTerminal = false) ∧
    (o.accumulator.done = true ↔ o.state = .done) ∧
    (∀ whole ∈ o.accumulator.held,
      request.responseKind ∈ [.listBuckets, .listKeys, .mapReduce, .indexQuery] ∧
        request.responseKind.Admits whole) ∧
    (∀ (frame : Frame) (r : Response) (done : Bool),
      o.state.isWaiting = true →
      frame.isError = false →
      request.responseKind.decode frame.tag frame.payload = .ok (r, done) →
      ∃ accumulator ready, o.accumulator.push r done = (accumulator, .ok ready) ∧
        (done = true → ready.isSome = true)) ∧
    ∀ frame fault, (o.onFrame frame).result = .error fault ↔ Refusal o frame fault := by
  intro o
  have h : o.Lockstep := lockstep_run request delivery calls
  have kind : o.kind = request.responseKind :=
    congrArg EncodedRequest.kind (run_request _ calls)
  refine ⟨?_, h.ended, fun whole m => ?_, ?_, fun _ _ => h.onFrame_error_iff⟩
  · have attended : o.listening = !o.isTerminal := h.attended
    simp [attended]
  · obtain ⟨stream, admits⟩ := h.held whole m
    rw [← kind]
    exact ⟨ResponseKind.isStreaming_iff.1 stream, admits⟩
  · intro frame r done waits answers decoded
    rw [← kind] at decoded
    exact h.takes waits (ResponseKind.read_of_decode answers decoded)

end Operation

end StoreClient
