import Mathlib
import StoreClient.Proofs.Operation
import StoreClient.Proofs.Split
import StoreClient.Simulation.Script

/-!
# What is received over a byte stream

What an operation makes of frames, one after the other, says what becomes of it
(`Operation.receive`). A script is told apart into what becomes of the request
(`Script.sendFailure?`) and what comes in (`Script.input`): its bytes, however they are cut, and
what ends them. The two together say what becomes of an operation over a script
(`Script.reception`), without any connection.

A read comes to some bytes off the front of the input or to its end (`Script.reading`).
-/


namespace StoreClient

open Operation (Event)

namespace Operation

/-- The error of the server that an event tells of. -/
def Event.serverError? : Event → Option ServerError
  | .response .. => none
  | .fault f => f.serverError?

/-- What becomes of an operation that receives frames. -/
structure Reception where
  operation : Operation
  /-- What the listener is told. -/
  events : List Event
  /-- Whether the operation has its outcome; otherwise it waits for ever. -/
  settled : Bool
  /-- The error by which the server has refused the request. -/
  refusal : Option ServerError

/-- What the caller gets. -/
def Reception.result (r : Reception) : Option (Except Fault State) :=
  if r.settled then some (.ok r.operation.state) else none

/-- Takes frames up to the one that brings the outcome. One that cannot be taken fails the
operation, and so does the fault behind the frames, if there is one. -/
def receive (o : Operation) : List Frame → Option Fault → Reception
  | [], none => { operation := o, events := [], settled := false, refusal := none }
  | [], some fault =>
    let failed := o.fail fault
    { operation := failed.operation, events := failed.events, settled := true, refusal := none }
  | frame :: frames, behind =>
    let step := o.onFrame frame
    match step.result with
    | .error fault =>
      let failed := step.operation.fail fault
      { operation := failed.operation
        events := step.events ++ failed.events
        settled := true
        refusal := none }
    | .ok .more =>
      let rest := receive step.operation frames behind
      { rest with events := step.events ++ rest.events }
    | .ok .done =>
      { operation := step.operation, events := step.events, settled := true, refusal := none }
    | .ok (.failed error) =>
      { operation := step.operation
        events := step.events
        settled := true
        refusal := some error }

/-- The listener is told of an error of the server exactly if the server has refused the request. -/
lemma Awaiting.refusal_receive {o : Operation} (aw : o.Awaiting) (frames : List Frame)
    {behind : Option Fault} (own : ∀ fault ∈ behind, fault.serverError? = none) :
    (o.receive frames behind).refusal =
      (o.receive frames behind).events.findSome? Event.serverError? := by
  induction frames generalizing o with
  | nil =>
    cases behind with
    | none => rfl
    | some fault =>
      simp only [receive, fail_of_open aw.isTerminal aw.hears]
      simp [Event.serverError?, own fault rfl]
  | cons frame frames ih =>
    have taken := aw.onFrame_taken frame
    simp only [receive]
    generalize o.onFrame frame = step at taken
    cases taken with
    | unread _ =>
      simp [fail_of_open aw.counted.isTerminal aw.counted.hears, Event.serverError?,
        Fault.serverError?]
    | @rejected _ _ accumulator _ _ _ =>
      have aw' : ({ o.counted with accumulator } : Operation).Awaiting :=
        ⟨aw.counted.waits, aw.hears⟩
      simp [fail_of_open aw'.isTerminal aw'.hears, Event.serverError?, Fault.serverError?]
    | refused _ => rfl
    | last _ _ => rfl
    | @fragment _ accumulator ready _ _ =>
      have later := ih (o := { o.counted with accumulator, state := .streaming }) ⟨rfl, aw.hears⟩
      cases ready with
      | none => exact later
      | some r => exact later

/-- What is received settles an operation where a fault comes behind it. -/
lemma settled_receive (o : Operation) (frames : List Frame) (fault : Fault) :
    (o.receive frames (some fault)).settled = true := by
  induction frames generalizing o with
  | nil => rfl
  | cons frame frames ih =>
    simp only [receive]
    cases (o.onFrame frame).result with
    | error cause => rfl
    | ok progress =>
      cases progress with
      | more => exact ih (o.onFrame frame).operation
      | done => rfl
      | failed error => rfl

end Operation

open Operation (Reception)

open Simulation

namespace Simulation

/-! ### What a script comes to -/

/-- What comes in over a byte stream. -/
structure Input where
  /-- All the bytes that are given. -/
  bytes : Bytes
  /-- The fault that ends them, unless the stream stalls. -/
  ending : Option Fault

namespace Script

/-- What the steps of the input give one after the other. -/
def inputOf : List ReadStep → Input
  | [] => { bytes := [], ending := some .connectionClosed }
  | .data [] :: _ => { bytes := [], ending := some .connectionClosed }
  | .data bytes :: rest =>
    let later := inputOf rest
    { later with bytes := bytes ++ later.bytes }
  | .failed cause :: _ => { bytes := [], ending := some (.read cause) }
  | .delay _ :: rest => inputOf rest
  | .stall :: _ => { bytes := [], ending := none }

/-- What comes in over a script. -/
def input (s : Script) : Input := inputOf s.reads

/-- The cause for which so many bytes cannot be written, if they cannot. -/
def writeFailure? : (size : Nat) → List WriteStep → Option String
  | _, [] => none
  | size, .accept most :: writes =>
    if most = 0 then some writeZero
    else if size ≤ most then none
    else writeFailure? (size - most) writes
  | _, .failed cause :: _ => some cause

/-- The cause for which so many bytes cannot be written and flushed, if they cannot. -/
def sendFailure? (s : Script) (size : Nat) : Option String :=
  (writeFailure? size s.writes).or s.flushes.head?.join

/-- What becomes of an operation whose request is lost for a cause or, if it is not, is answered by
what comes in. -/
def after (s : Script) (lost : Option String) (limits : Decoder.Limits) (o : Operation) :
    Reception :=
  match lost with
  | some cause => o.receive [] (some (.write cause))
  | none =>
    let answer := Frame.split limits s.input.bytes
    o.receive answer.frames (answer.fault.or s.input.ending)

/-- What becomes of an operation whose request has so many bytes. -/
def reception (s : Script) (size : Nat) (limits : Decoder.Limits) (o : Operation) : Reception :=
  s.after (s.sendFailure? size) limits o

/-- An input that never stalls ends. -/
lemma exists_ending {reads : List ReadStep} (flows : .stall ∉ reads) :
    ∃ fault, (inputOf reads).ending = some fault := by
  induction reads with
  | nil => exact ⟨_, rfl⟩
  | cons step reads ih =>
    rw [List.mem_cons, not_or] at flows
    cases step with
    | data bytes =>
      cases bytes with
      | nil => exact ⟨_, rfl⟩
      | cons b bytes => exact ih flows.2
    | failed cause => exact ⟨_, rfl⟩
    | delay milliseconds => exact ih flows.2
    | stall => exact absurd rfl flows.1

/-- How an input ends is not the doing of the server. -/
lemma serverError?_ending {reads : List ReadStep} {fault : Fault}
    (ends : (inputOf reads).ending = some fault) : fault.serverError? = none := by
  induction reads with
  | nil => cases ends; rfl
  | cons step reads ih =>
    cases step with
    | data bytes =>
      cases bytes with
      | nil => cases ends; rfl
      | cons b bytes => exact ih ends
    | failed cause => cases ends; rfl
    | delay milliseconds => exact ih ends
    | stall => cases ends

/-- An operation comes to its outcome over a script that never stalls. -/
lemma settled_reception {s : Script} (flows : .stall ∉ s.reads) (size : Nat)
    (limits : Decoder.Limits) (o : Operation) : (s.reception size limits o).settled = true := by
  obtain ⟨fault, ends⟩ := exists_ending flows
  unfold reception after
  cases s.sendFailure? size with
  | some cause => rfl
  | none =>
    have behind : ∃ fault,
        (Frame.split limits s.input.bytes).fault.or s.input.ending = some fault := by
      rw [input, ends]
      cases (Frame.split limits (inputOf s.reads).bytes).fault <;> exact ⟨_, rfl⟩
    obtain ⟨fault, behind⟩ := behind
    simp only [behind]
    exact o.settled_receive _ fault

/-- The listener is told of an error of the server exactly if the server has refused the request. -/
lemma refusal_reception (s : Script) (size : Nat) (limits : Decoder.Limits) {o : Operation}
    (aw : o.Awaiting) :
    (s.reception size limits o).refusal =
      (s.reception size limits o).events.findSome? Operation.Event.serverError? := by
  unfold reception after
  cases s.sendFailure? size with
  | some cause =>
    refine aw.refusal_receive [] ?_
    rintro fault ⟨⟩
    rfl
  | none =>
    refine aw.refusal_receive _ ?_
    intro fault behind
    cases bad : (Frame.split limits s.input.bytes).fault with
    | some cause =>
      rw [bad] at behind
      cases behind
      exact Frame.serverError?_split bad
    | none =>
      rw [bad, Option.none_or] at behind
      exact serverError?_ending behind

/-- How many reads steps of the input may answer. -/
def readCount (reads : List ReadStep) : Nat := (reads.map readsOf).sum

/-- The bound on the reads of a script is the sum over its steps. -/
lemma reads_eq (s : Script) : Line.reads s = readCount s.reads := by
  show (s.reads.map readsOf).foldl (· + ·) 0 = _
  rw [readCount, List.sum_eq_foldl]

/-- What the next read comes to, for whoever waits without end: some bytes off the front of the
input, the end of the input, or nothing ever. -/
inductive Reading (capacity : Nat) (reads : List ReadStep) : Prop where
  | given {chunk : Bytes} {rest : List ReadStep} :
    readInput capacity reads none = (some (.received chunk, none), rest) →
    chunk ≠ [] →
    inputOf reads = { inputOf rest with bytes := chunk ++ (inputOf rest).bytes } →
    readCount rest < readCount reads →
    Reading capacity reads
  | ended {completion : Completion} {rest : List ReadStep} {fault : Fault} :
    readInput capacity reads none = (some (completion, none), rest) →
    inputOf reads = { bytes := [], ending := some fault } →
    (∀ c : Connection, c.afterReading completion = (c.markBroken, some fault)) →
    Reading capacity reads
  | stalled {rest : List ReadStep} :
    readInput capacity reads none = (none, rest) →
    inputOf reads = { bytes := [], ending := none } →
    Reading capacity reads

/-- The first step has its reads before those of the others. -/
lemma readCount_cons (step : ReadStep) (reads : List ReadStep) :
    readCount (step :: reads) = readsOf step + readCount reads := by
  rw [readCount, List.map_cons, List.sum_cons, readCount]

/-- The bytes of a step come before the rest of the input. -/
lemma inputOf_data {bytes : Bytes} (some_ : bytes ≠ []) (reads : List ReadStep) :
    inputOf (.data bytes :: reads) =
      { inputOf reads with bytes := bytes ++ (inputOf reads).bytes } := by
  cases bytes with
  | nil => exact absurd rfl some_
  | cons b bytes => rfl

/-- A read takes what fits of bytes that there are. -/
lemma reading_data {capacity : Nat} (positive : 0 < capacity) {bytes : Bytes} (some_ : bytes ≠ [])
    (reads : List ReadStep) : Reading capacity (.data bytes :: reads) := by
  by_cases fits : bytes.length ≤ capacity
  · have read : readInput capacity (.data bytes :: reads) none =
        (some (.received bytes, none), reads) := by
      simp [readInput, fits, List.take_of_length_le fits]
    refine .given read some_ (inputOf_data some_ reads) ?_
    rw [readCount_cons]
    exact Nat.lt_add_of_pos_left (Nat.succ_pos _)
  · have read : readInput capacity (.data bytes :: reads) none =
        (some (.received (bytes.take capacity), none), .data (bytes.drop capacity) :: reads) := by
      simp [readInput, fits]
    have left : bytes.drop capacity ≠ [] := by simpa using fits
    refine .given read ?_ ?_ ?_
    · simpa using ⟨Nat.ne_of_gt positive, some_⟩
    · rw [inputOf_data some_, inputOf_data left]
      simp [← List.append_assoc]
    · simp only [readCount_cons, readsOf, List.length_drop]
      omega

/-- Every read comes to one of these. -/
lemma reading {capacity : Nat} (positive : 0 < capacity) (reads : List ReadStep) :
    Reading capacity reads := by
  induction reads with
  | nil => exact .ended rfl rfl (fun c => rfl)
  | cons step reads ih =>
    cases step with
    | data bytes =>
      cases bytes with
      | nil =>
        have read : readInput capacity (.data [] :: reads) none =
            (some (.received [], none), reads) := by
          simp [readInput]
        exact .ended read rfl (fun c => rfl)
      | cons b bytes => exact reading_data positive (by simp) reads
    | failed cause => exact .ended rfl rfl (fun c => rfl)
    | delay milliseconds =>
      cases ih with
      | given e some_ bytes less =>
        refine .given e some_ bytes ?_
        rw [readCount_cons]
        omega
      | ended e bytes fault => exact .ended e bytes fault
      | stalled e bytes => exact .stalled e bytes
    | stall => exact .stalled rfl rfl

end Script

end Simulation

end StoreClient
