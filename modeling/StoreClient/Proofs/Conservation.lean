import Mathlib
import StoreClient.Proofs.Layout

/-!
# What a decoder does with the bytes

A decoder is fed chunks, with a list of reports as the answer or with a buffer that the reports are
put into, and it is reset. An `Account` is a layout with the bytes that it was fed and the frames
that it reported since the last reset or fault.

After any sequence of calls the layout is within its bounds, those bytes are the bytes of those
frames followed by what the layout holds, and the next call is answered as by the decoder that the
layout stands for (`layout_sound`). A step of the argument is one call (`Account.Stands.perform`).
-/

namespace StoreClient

namespace Decoder

/-! ### Calls -/

/-- A call of a decoder. -/
inductive Call where
  /-- Feeds a chunk and asks for the reports. -/
  | feed (chunk : Bytes)
  /-- Feeds a chunk and puts the reports behind those of a buffer. -/
  | feedInto (chunk : Bytes) (buffer : List Event)
  | reset

/-- The answer to a call. -/
inductive Reply where
  | fed (result : Except Fault (List Event))
  /-- The buffer keeps the reports of before a fault. -/
  | fedInto (buffer : List Event) (result : Except Fault Unit)
  | reset

/-- The fault, if there is one, and otherwise the result. -/
def orFault {α : Type} (fault : Option Fault) (result : α) : Except Fault α :=
  match fault with
  | none => .ok result
  | some fault => .error fault

/-- Answers a call. -/
def perform (d : Decoder) : Call → Decoder × Reply
  | .feed chunk =>
    let fed := d.feed chunk
    (fed.decoder, .fed (orFault fed.fault fed.events))
  | .feedInto chunk buffer =>
    let fed := d.feed chunk
    (fed.decoder, .fedInto (buffer ++ fed.events) (orFault fed.fault ()))
  | .reset => (d.reset, .reset)

/-- The decoder after calls. -/
def run (d : Decoder) (calls : List Call) : Decoder :=
  calls.foldl (fun d call => (d.perform call).1) d

/-- The frame that a report is about. -/
def Event.frame? : Event → Option Frame
  | .frame f => some f
  | _ => none

/-! ### Accounts -/

/-- A layout and what went through it since the last reset or fault. -/
structure Account where
  layout : Layout := {}
  /-- The bytes that were fed. -/
  fed : Bytes := []
  /-- The frames that were reported. -/
  frames : List Frame := []

namespace Account

/-- The account after a chunk, whose reports are behind those of a buffer. A fault begins a new one.
-/
def enter (a : Account) (chunk : Bytes) (buffer : List Event) (out : Layout.Outcome) : Account :=
  match out.fault with
  | none =>
    { layout := out.layout
      fed := a.fed ++ chunk
      frames := a.frames ++ (out.events.drop buffer.length).filterMap Event.frame? }
  | some _ => { layout := out.layout }

/-- Answers a call from the layout, unless something is out of range. -/
def perform (limits : Limits) (a : Account) : Call → Option (Account × Reply)
  | .feed chunk => do
    let out ← a.layout.feedInto limits chunk []
    return (a.enter chunk [] out, .fed (orFault out.fault out.events))
  | .feedInto chunk buffer => do
    let out ← a.layout.feedInto limits chunk buffer
    return (a.enter chunk buffer out, .fedInto out.events (orFault out.fault ()))
  | .reset => some ({}, .reset)

/-- The account after calls. -/
def run (limits : Limits) (a : Account) (calls : List Call) : Option Account :=
  calls.foldlM (fun a call => (a.perform limits call).map Prod.fst) a

/-- How a chunk is taken: the reports, the fault and the account after it. Without fault its frames
are reported, then once what is waited for, and the chunk is added to the account. A fault leaves
nothing of the frame under way. -/
inductive Takes (a : Account) (chunk : Bytes) : List Event → Option Fault → Account → Prop where
  | whole {frames : List Frame} {need : Event} {l : Layout} :
    l.Awaits need →
    Takes a chunk (frames.map .frame ++ [need]) none
      { layout := l, fed := a.fed ++ chunk, frames := a.frames ++ frames }
  | refused {frames : List Frame} {fault : Fault} {l : Layout} :
    l.isIdle = true →
    Takes a chunk (frames.map .frame) (some fault) { layout := l }

/-- How a call is answered. -/
inductive Answers (a : Account) : Call → Reply → Account → Prop where
  | feed {chunk : Bytes} {events : List Event} {fault : Option Fault} {next : Account} :
    a.Takes chunk events fault next →
    Answers a (.feed chunk) (.fed (orFault fault events)) next
  | feedInto {chunk : Bytes} {buffer events : List Event} {fault : Option Fault} {next : Account} :
    a.Takes chunk events fault next →
    Answers a (.feedInto chunk buffer) (.fedInto (buffer ++ events) (orFault fault ())) next
  | reset {l : Layout} : l.isIdle = true → Answers a .reset .reset { layout := l }

/-- No byte is lost or made up. -/
structure Balanced (a : Account) : Prop where
  conserved : a.fed = a.frames.flatMap Frame.bytes ++ a.layout.held
  counted : a.fed.length = (a.frames.map Frame.size).sum + a.layout.held.length

/-- An account stands for a decoder. -/
structure Stands (a : Account) (d : Decoder) : Prop where
  holds : a.layout.Holds d.limits d.state
  conserved : a.fed = a.frames.flatMap Frame.bytes ++ a.layout.held

end Account

/-! ### Chunks -/

/-- The frames of a chunk are those of its reports. -/
lemma Fed.filterMap_events (fed : Fed) : fed.events.filterMap Event.frame? = fed.frames := by
  have frames : (fed.frames.map Event.frame).filterMap Event.frame? = fed.frames := by
    rw [List.filterMap_map]
    exact List.filterMap_some
  unfold Fed.events waiting
  rw [List.filterMap_append, frames]
  split
  · cases fed.decoder.state <;> simp [Event.frame?]
  · simp

/-- A chunk without fault is reported by its frames and by what is waited for. -/
lemma Fed.events_of_clean {fed : Fed} (clean : fed.fault = none) :
    fed.events = fed.frames.map .frame ++ [fed.decoder.waiting] := by
  unfold Fed.events
  rw [clean]
  rfl

/-- A chunk with a fault is reported by its frames. -/
lemma Fed.events_of_fault {fed : Fed} {fault : Fault} (bad : fed.fault = some fault) :
    fed.events = fed.frames.map .frame := by
  unfold Fed.events
  rw [bad]
  exact List.append_nil _

namespace Account

variable {limits : Limits} {a : Account} {s : State}

/-- Every decoder has an account to begin with. -/
lemma stands_new (limits : Limits) : Stands {} { limits } :=
  { holds := Layout.holds_empty limits
    conserved := rfl }

/-- A chunk without fault is added to the account with its frames. -/
lemma enter_events (a : Account) (chunk : Bytes) (buffer : List Event) (l : Layout) (fed : Fed)
    (rest : Bytes) :
    a.enter chunk buffer ⟨l, buffer ++ fed.events, fed.fault, rest⟩ =
      match fed.fault with
      | none => { layout := l, fed := a.fed ++ chunk, frames := a.frames ++ fed.frames }
      | some _ => { layout := l } := by
  unfold enter
  dsimp only
  rw [List.drop_left, Fed.filterMap_events]

section Stands

variable {d : Decoder}

/-- The account after a chunk stands for the decoder after it. -/
lemma Stands.enter (h : a.Stands d) (chunk : Bytes) (buffer : List Event) :
    ∃ next l rest, a.layout.feedInto d.limits chunk buffer =
        some ⟨l, buffer ++ (d.feed chunk).events, (d.feed chunk).fault, rest⟩ ∧
      a.enter chunk buffer ⟨l, buffer ++ (d.feed chunk).events, (d.feed chunk).fault, rest⟩ =
        next ∧
      next.Stands (d.feed chunk).decoder ∧
      a.Takes chunk (d.feed chunk).events (d.feed chunk).fault next := by
  obtain ⟨l, rest, taken, holds, _⟩ := h.holds.feedInto chunk buffer
  have limits : (d.feed chunk).decoder.limits = d.limits :=
    feedFrom_limits d.limits d.state chunk []
  have kept : l.Holds (d.feed chunk).decoder.limits (d.feed chunk).decoder.state := by
    rw [limits]
    exact holds
  refine ⟨_, l, rest, taken, enter_events .., ?_⟩
  cases fault : (d.feed chunk).fault with
  | none =>
    rw [Fed.events_of_clean fault]
    refine ⟨{ holds := kept, conserved := ?_ }, .whole kept.awaits⟩
    obtain ⟨_, _, rest, bytes, clean⟩ := feedFrom_holds h.holds.valid chunk
    calc a.fed ++ chunk
        = a.frames.flatMap Frame.bytes ++ (d.state.held ++ chunk) := by
          rw [h.conserved, h.holds.held, List.append_assoc]
      _ = a.frames.flatMap Frame.bytes ++
            ((d.feed chunk).frames.flatMap Frame.bytes ++ l.held) := by
          rw [bytes, clean fault, holds.held]
          rfl
      _ = (a.frames ++ (d.feed chunk).frames).flatMap Frame.bytes ++ l.held := by
          rw [List.flatMap_append, List.append_assoc]
  | some cause =>
    rw [Fed.events_of_fault fault]
    have nothing : (d.feed chunk).decoder.state = .length [] := state_feedFrom_of_fault fault
    refine ⟨{ holds := kept, conserved := ?_ }, .refused ?_⟩
    · rw [kept.held, nothing]
      rfl
    · rw [kept.isIdle]
      exact isIdle_iff.2 nothing

/-- A call is answered as by the decoder that the account stands for, and the account then stands
for the decoder after it. -/
lemma Stands.perform (h : a.Stands d) (call : Call) :
    ∃ next, a.perform d.limits call = some (next, (d.perform call).2) ∧
      next.Stands (d.perform call).1 ∧ a.Answers call (d.perform call).2 next := by
  cases call with
  | feed chunk =>
    obtain ⟨next, l, rest, taken, entered, stands, takes⟩ := h.enter chunk []
    rw [List.nil_append] at taken entered
    refine ⟨next, ?_, stands, .feed takes⟩
    simp only [Account.perform, taken, entered, Option.bind_eq_bind, Option.bind_some,
      Option.pure_def, Decoder.perform]
  | feedInto chunk buffer =>
    obtain ⟨next, l, rest, taken, entered, stands, takes⟩ := h.enter chunk buffer
    refine ⟨next, ?_, stands, .feedInto takes⟩
    simp only [Account.perform, taken, entered, Option.bind_eq_bind, Option.bind_some,
      Option.pure_def, Decoder.perform]
  | reset => exact ⟨{}, rfl, stands_new d.limits, .reset rfl⟩

/-- A call does not change the limits of a decoder. -/
lemma limits_perform (d : Decoder) (call : Call) : (d.perform call).1.limits = d.limits := by
  cases call with
  | feed chunk => exact feedFrom_limits d.limits d.state chunk []
  | feedInto chunk buffer => exact feedFrom_limits d.limits d.state chunk []
  | reset => rfl

/-- After any calls there is an account that stands for the decoder. -/
lemma Stands.run (h : a.Stands d) (calls : List Call) :
    ∃ now, a.run d.limits calls = some now ∧ now.Stands (d.run calls) := by
  induction calls generalizing a d with
  | nil => exact ⟨a, rfl, h⟩
  | cons call calls ih =>
    obtain ⟨next, performed, stands, _⟩ := h.perform call
    obtain ⟨now, ran, stands'⟩ := ih stands
    refine ⟨now, ?_, stands'⟩
    rw [limits_perform] at ran
    unfold Account.run at ran ⊢
    rw [List.foldlM_cons, performed]
    exact ran

/-- Calls do not change the limits of a decoder. -/
lemma limits_run (d : Decoder) (calls : List Call) : (d.run calls).limits = d.limits := by
  induction calls generalizing d with
  | nil => rfl
  | cons call calls ih => exact (ih _).trans (limits_perform d call)

/-- No byte is lost or made up. -/
lemma Stands.balanced (h : a.Stands d) : a.Balanced :=
  { conserved := h.conserved
    counted := by
      rw [h.conserved, List.length_append, List.length_flatMap]
      simp only [Frame.length_bytes] }

end Stands

end Account

/-- Whatever calls a new decoder has had, faults and resets among them, no difference was negative
and no slice reached beyond its buffer. The offset and the buffers are within their bounds. The
bytes fed since the last reset or fault are those of the frames reported, then those that are held.
The layout shows what the decoder shows, and answers the next call as it does. -/
theorem layout_sound (limits : Limits) (calls : List Call) :
    let d := Decoder.run { limits } calls
    ∃ now, Account.run limits {} calls = some now ∧
      now.layout.Sound limits ∧ now.Balanced ∧ now.layout.Holds limits d.state ∧
      now.layout.isIdle = d.isIdle ∧ now.layout.remaining? = some d.remaining? ∧
      ∀ call, ∃ next, now.perform limits call = some (next, (d.perform call).2) ∧
        now.Answers call (d.perform call).2 next := by
  intro d
  have kept : d.limits = limits := Account.limits_run { limits } calls
  obtain ⟨now, ran, stands⟩ := (Account.stands_new limits).run calls
  have holds : now.layout.Holds limits d.state := by
    rw [← kept]
    exact stands.holds
  refine ⟨now, ran, holds.sound, stands.balanced, holds, stands.holds.isIdle,
    stands.holds.remaining?, ?_⟩
  intro call
  obtain ⟨next, performed, _, answers⟩ := stands.perform call
  rw [← kept]
  exact ⟨next, performed, answers⟩

end Decoder

end StoreClient
