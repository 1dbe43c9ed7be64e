import Mathlib
import StoreClient.Proofs.Frame
import StoreClient.Simulation.Script

/-!
# Sending frames

A frame is written until the transport has taken its last byte, and then flushed. However little
each write takes, what is taken is a beginning of the frame (`sent_writing`); all of it is taken or
the frame is lost, and then the connection is broken.

A connection writes every frame from the same buffer, which it empties before. A writer is a
connection with that buffer and its byte stream; what it sends does not depend on what the buffer
held (`Writer.send_eq`). So the bytes of frames that are sent one after the other are those frames
and nothing else (`sendAll_exact`).
-/

namespace StoreClient.Simulation

/-! ### One frame -/

/-- What comes of writing and flushing these bytes over a script: all of them are taken and flushed,
or they are all taken and the flush fails, or fewer are taken. -/
inductive Sent (rest : Bytes) (script : Script) : Option (Except Fault Unit) × Script → Prop where
  | flushed {line : Script} :
    line.written = script.written ++ rest →
    script.flushes.head?.join = none →
    Sent rest script (some (.ok ()), line)
  | unflushed {cause : String} {line : Script} :
    line.written = script.written ++ rest →
    script.flushes.head?.join = some cause →
    Sent rest script (some (.error (.write cause)), line)
  | unwritten {taken lost : Bytes} {cause : String} {line : Script} :
    rest = taken ++ lost →
    lost ≠ [] →
    line.written = script.written ++ taken →
    Sent rest script (some (.error (.write cause)), line)

section Sent

variable {script line : Script} {rest : Bytes} {steps : Nat} {patience : Patience}
  {sent : Option (Except Fault Unit) × Script}

/-- What comes of the bytes behind those that a write has taken. -/
lemma Sent.behind {most : Nat} (written : line.written = script.written ++ rest.take most)
    (flushes : line.flushes = script.flushes) (h : Sent (rest.drop most) line sent) :
    Sent rest script sent := by
  cases h with
  | flushed all flush =>
    apply Sent.flushed
    · rw [all, written, List.append_assoc, List.take_append_drop]
    · rw [← flushes, flush]
  | unflushed all flush =>
    apply Sent.unflushed
    · rw [all, written, List.append_assoc, List.take_append_drop]
    · rw [← flushes, flush]
  | @unwritten taken lost cause line' split some_ some_written =>
    have whole : rest = (rest.take most ++ taken) ++ lost := by
      rw [List.append_assoc, ← split, List.take_append_drop]
    apply Sent.unwritten whole some_
    rw [some_written, written, List.append_assoc]

/-- A write takes the first of the bytes, perhaps none of them, or fails. -/
lemma ask_write (script : Script) (capacity : Nat) (rest : Bytes) (patience : Patience) :
    (∃ most line,
        Line.ask script capacity (.write rest) patience =
          .given (.wrote (min most rest.length)) patience line ∧
        line.written = script.written ++ rest.take most ∧ line.flushes = script.flushes) ∨
      ∃ cause line,
        Line.ask script capacity (.write rest) patience = .given (.failed cause) patience line ∧
        line.written = script.written := by
  simp only [Line.ask, Script.ask]
  split
  · refine .inl ⟨rest.length, { script with written := script.written ++ rest }, ?_, ?_, rfl⟩
    · rw [Nat.min_self]
    · rw [List.take_length]
  · exact .inl ⟨_, _, rfl, rfl, rfl⟩
  · exact .inr ⟨_, _, rfl, rfl⟩

/-- Once the bytes are out, it is the flush that decides. -/
lemma sent_flushing (steps : Nat) (patience : Patience) (script : Script) :
    Sent [] script (sendFrom (steps + 1) patience .flushing script) := by
  have all : script.written = script.written ++ [] := (List.append_nil _).symm
  simp only [sendFrom, Sending.await, Line.ask, Script.ask]
  cases flushes : script.flushes with
  | nil => exact .flushed all (by rw [flushes]; rfl)
  | cons flush later =>
    cases flush with
    | none => exact .flushed all (by rw [flushes]; rfl)
    | some cause => exact .unflushed all (by rw [flushes]; rfl)

/-- Each write takes some of the bytes or loses the rest of them, so that they are written in at
most as many steps as there are bytes. -/
lemma sent_writing (enough : rest.length < steps) (more : rest ≠ []) :
    Sent rest script (sendFrom steps patience (.writing rest) script) := by
  induction steps generalizing rest script with
  | zero => exact absurd enough (Nat.not_lt_zero _)
  | succ steps ih =>
    have some_ : 0 < rest.length := List.length_pos_iff.2 more
    obtain ⟨most, line, asked, written, flushes⟩ | ⟨cause, line, asked, written⟩ :=
      ask_write script 0 rest patience
    · simp only [sendFrom, Sending.await, asked, Sending.resume]
      by_cases zero : most = 0
      · rw [if_pos (by omega)]
        apply Sent.unwritten (List.nil_append rest).symm more
        rw [written, zero, List.take_zero]
      · rw [if_neg (by omega)]
        apply Sent.behind written flushes
        by_cases all : rest.length ≤ most
        · rw [if_pos (by omega), List.drop_of_length_le all]
          obtain ⟨later, rfl⟩ : ∃ n, steps = n + 1 := Nat.exists_eq_add_one_of_ne_zero (by omega)
          exact sent_flushing later patience line
        · rw [if_neg (by omega), Nat.min_eq_left (Nat.le_of_not_le all)]
          have fewer : (rest.drop most).length = rest.length - most := List.length_drop
          exact ih (by omega) (List.ne_nil_of_length_pos (by omega))
    · simp only [sendFrom, Sending.await, asked, Sending.resume]
      apply Sent.unwritten (List.nil_append rest).symm more
      rw [written, List.append_nil]

end Sent

/-- What has been taken of a frame that was to be sent, and what became of the connection. The frame
is out just where all of it was taken and the flush has not failed, and otherwise it is lost. -/
structure Dispatched (frame : Frame) (c : Connection) (line : Script)
    (used : Used Script (Except Fault Unit)) (taken : Bytes) : Prop where
  written : used.line.written = line.written ++ taken
  beginning : taken <+: frame.bytes
  out_or_lost : used.result = some (.ok ()) ∧ used.connection = c ∨
    ∃ cause, used.result = some (.error (.write cause)) ∧ used.connection = c.markBroken
  out_iff : used.result = some (.ok ()) ↔
    taken = frame.bytes ∧ line.flushes.head?.join = none

section Dispatched

variable {frame : Frame} {c : Connection} {line : Script} {used : Used Script (Except Fault Unit)}
  {taken : Bytes}

/-- A frame that is out leaves the connection as it was. -/
lemma Dispatched.kept (d : Dispatched frame c line used taken) (out : used.result = some (.ok ())) :
    used.connection = c := by
  rcases d.out_or_lost with ⟨_, unchanged⟩ | ⟨cause, failed, _⟩
  · exact unchanged
  · rw [failed] at out
    cases out

/-- A frame that is lost breaks the connection. -/
lemma Dispatched.lost (d : Dispatched frame c line used taken)
    (lost : used.result ≠ some (.ok ())) :
    (∃ cause, used.result = some (.error (.write cause))) ∧ used.connection.broken = true := by
  rcases d.out_or_lost with ⟨out, _⟩ | ⟨cause, failed, broken⟩
  · exact absurd out lost
  · exact ⟨⟨cause, failed⟩, congrArg Connection.broken broken⟩

end Dispatched

/-- A frame that fits is sent, or lost, in no more than one step for each of its bytes and one to
flush it. -/
lemma exists_dispatched {frame : Frame} (fits : frame.Fits) (c : Connection) (line : Script)
    (patience : Patience) :
    ∃ taken, Dispatched frame c line (sendFrame c line frame patience) taken := by
  have encoded : frame.encode = .ok frame.bytes := Frame.encode_eq_ok_iff.2 ⟨fits, rfl⟩
  have sent : Sent frame.bytes line
      (sendFrom (sendingSteps (.writing frame.bytes)) patience (.writing frame.bytes) line) :=
    sent_writing (Nat.lt_succ_self _) frame.bytes_ne_nil
  unfold sendFrame
  simp only [encoded]
  generalize sendFrom _ _ _ line = outcome at sent
  cases sent with
  | flushed written flush =>
    exact ⟨frame.bytes, written, List.prefix_rfl, .inl ⟨rfl, rfl⟩, by simp [flush]⟩
  | @unflushed cause _ written flush =>
    exact ⟨frame.bytes, written, List.prefix_rfl, .inr ⟨cause, rfl, rfl⟩, by simp [flush]⟩
  | @unwritten taken lost cause _ split some_ written =>
    refine ⟨taken, written, ⟨lost, split.symm⟩, .inr ⟨cause, rfl, rfl⟩, ?_⟩
    refine iff_of_false (by simp) fun all => ?_
    rw [all.1, List.self_eq_append_right] at split
    exact some_ split

/-! ### Frames one after the other -/

/-- A connection with its byte stream and the buffer from which it writes. -/
structure Writer where
  connection : Connection
  line : Script
  /-- What was encoded last. -/
  buffer : Bytes := []

namespace Writer

/-- Empties the buffer, puts the bytes of a frame into it, and sends what it then holds. -/
def send (w : Writer) (frame : Frame) (patience : Patience) :
    Writer × Option (Except Fault Unit) :=
  let empty := w.buffer.drop w.buffer.length
  match frame.encodeInto empty with
  | .error fault => ({ w with buffer := empty }, some (.error fault))
  | .ok buffer =>
    let sending := Sending.writing buffer
    match sendFrom (sendingSteps sending) patience sending w.line with
    | (none, line) => ({ w with line, buffer }, none)
    | (some result, line) =>
      ({ connection := w.connection.afterSending result, line, buffer }, some result)

/-- What a frame comes to does not depend on what the buffer held. -/
lemma send_eq (w : Writer) (frame : Frame) (patience : Patience) :
    { connection := (w.send frame patience).1.connection
      line := (w.send frame patience).1.line
      result := (w.send frame patience).2 } = sendFrame w.connection w.line frame patience := by
  unfold send sendFrame
  rw [List.drop_length]
  unfold Frame.encodeInto
  cases frame.encode with
  | error fault => rfl
  | ok bytes =>
    simp only [bind, Except.bind, pure, Except.pure, List.nil_append]
    cases sendFrom (sendingSteps (.writing bytes)) patience (.writing bytes) w.line with
    | mk result line => cases result <;> rfl

/-- A call to send a frame: the writer before it and after it, and what the caller got. -/
structure Call where
  frame : Frame
  patience : Patience
  before : Writer
  after : Writer
  result : Option (Except Fault Unit)

/-- The calls to send frames one after the other, whatever became of those before. -/
def calls : Writer → List (Frame × Patience) → List Call
  | _, [] => []
  | w, (frame, patience) :: frames =>
    let (after, result) := w.send frame patience
    { frame, patience, before := w, after, result } :: calls after frames

/-- Sends frames one after the other. -/
def sendAll (w : Writer) (frames : List (Frame × Patience)) : Writer :=
  frames.foldl (fun w f => (w.send f.1 f.2).1) w

/-- A frame that is written into the reused buffer is out, or it is lost. -/
lemma exists_dispatched {frame : Frame} (fits : frame.Fits) (w : Writer) (patience : Patience) :
    ∃ taken, Dispatched frame w.connection w.line
      { connection := (w.send frame patience).1.connection
        line := (w.send frame patience).1.line
        result := (w.send frame patience).2 } taken := by
  rw [send_eq]
  exact Simulation.exists_dispatched fits w.connection w.line patience

/-- Every call to send a frame that fits is one of these, and what it leaves is passed on. -/
lemma mem_calls {w : Writer} {frames : List (Frame × Patience)} {call : Call}
    (m : call ∈ w.calls frames) :
    (call.frame, call.patience) ∈ frames ∧
      call.before.send call.frame call.patience = (call.after, call.result) := by
  induction frames generalizing w with
  | nil => cases m
  | cons f frames ih =>
    rcases List.mem_cons.1 m with rfl | m
    · exact ⟨List.mem_cons_self, rfl⟩
    · exact (ih m).imp_left (List.mem_cons_of_mem _)

/-- Frames that are all out are what the byte stream has taken. -/
lemma written_sendAll {w : Writer} {frames : List (Frame × Patience)}
    (fits : ∀ f ∈ frames, f.1.Fits) (out : ∀ call ∈ w.calls frames, call.result = some (.ok ())) :
    (w.sendAll frames).line.written = w.line.written ++ frames.flatMap (·.1.bytes) := by
  induction frames generalizing w with
  | nil => exact (List.append_nil _).symm
  | cons f frames ih =>
    obtain ⟨frame, patience⟩ := f
    obtain ⟨taken, d⟩ := exists_dispatched (fits _ List.mem_cons_self) w patience
    have all : taken = frame.bytes := (d.out_iff.1 (out _ List.mem_cons_self)).1
    have rest := ih (w := (w.send frame patience).1) (fun f m => fits f (List.mem_cons_of_mem _ m))
      (fun call m => out call (List.mem_cons_of_mem _ m))
    calc ((w.send frame patience).1.sendAll frames).line.written
        = (w.line.written ++ frame.bytes) ++ frames.flatMap (·.1.bytes) := by
          rw [rest, d.written, all]
      _ = w.line.written ++ ((frame, patience) :: frames).flatMap (·.1.bytes) := by
          rw [List.flatMap_cons, List.append_assoc]

/-- Frames that fit are sent one after the other from one buffer, whatever it held before. Of each
frame a beginning is taken. The call succeeds just where all of the frame is taken and the flush
does not fail, and leaves the connection as it was; otherwise it fails to write, and the connection
is broken. It comes to what sending the frame without a buffer comes to. Where all calls succeed,
the frames are taken one after the other and nothing else is. -/
theorem sendAll_exact (w : Writer) (frames : List (Frame × Patience))
    (fits : ∀ f ∈ frames, f.1.Fits) :
    (∀ call ∈ w.calls frames,
      (∃ taken, call.after.line.written = call.before.line.written ++ taken ∧
          taken <+: call.frame.bytes ∧
          (call.result = some (.ok ()) ↔
            taken = call.frame.bytes ∧ call.before.line.flushes.head?.join = none)) ∧
        (call.result = some (.ok ()) → call.after.connection = call.before.connection) ∧
        (call.result ≠ some (.ok ()) →
          (∃ cause, call.result = some (.error (.write cause))) ∧
            call.after.connection.broken = true) ∧
        sendFrame call.before.connection call.before.line call.frame call.patience =
          { connection := call.after.connection
            line := call.after.line
            result := call.result }) ∧
      ((∀ call ∈ w.calls frames, call.result = some (.ok ())) →
        (w.sendAll frames).line.written = w.line.written ++ frames.flatMap (·.1.bytes)) := by
  refine ⟨fun call m => ?_, written_sendAll fits⟩
  obtain ⟨listed, sent⟩ := mem_calls m
  have same := call.before.send_eq call.frame call.patience
  obtain ⟨taken, d⟩ := call.before.exists_dispatched (fits _ listed) call.patience
  rw [sent] at same d
  exact ⟨⟨taken, d.written, d.beginning, d.out_iff⟩, d.kept, d.lost, same.symm⟩

/-- A pong is sent in three writes, from a buffer that held something else, and then a ping is lost
of which two bytes were taken. -/
theorem sendAll_exact_pong :
    let w : Writer :=
      { connection := .ofStream 1 ⟨"a", 1⟩ 16
        line := { writes := [.accept 2, .accept 1, .accept 9, .accept 2, .accept 0] }
        buffer := [7, 7] }
    let pong : Frame := { tag := 2 }
    let ping : Frame := { tag := 1 }
    let frames := [(pong, none), (ping, none)]
    (∀ f ∈ frames, f.1.Fits) ∧
      (w.sendAll [(pong, none)]).line.written = [0, 0, 0, 1, 2] ∧
      (w.calls frames).map (·.result) = [some (.ok ()), some (.error (.write writeZero))] ∧
      (w.sendAll frames).line.written = [0, 0, 0, 1, 2, 0, 0] ∧
      ∀ call ∈ (w.calls frames).drop 1, call.after.connection.broken = true := by
  intro w pong ping frames
  have fits : ∀ f ∈ frames, f.1.Fits := by decide
  have out : ∀ call ∈ w.calls [(pong, none)], call.result = some (.ok ()) := by decide +kernel
  have lost : ∀ call ∈ (w.calls frames).drop 1, call.result ≠ some (.ok ()) := by decide +kernel
  refine ⟨fits, ?_, by decide +kernel, by decide +kernel, fun call m => ?_⟩
  · exact ((sendAll_exact w [(pong, none)] (by decide)).2 out).trans (by decide)
  · obtain ⟨each, _⟩ := sendAll_exact w frames fits
    exact ((each call (List.mem_of_mem_drop m)).2.2.1 (lost call m)).2

end Writer

end StoreClient.Simulation
