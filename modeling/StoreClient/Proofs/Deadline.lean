import Mathlib
import StoreClient.Proofs.Exchange
import StoreClient.Proofs.Stream
import StoreClient.Simulation.Paced

/-!
# Deadlines

A deadline changes nothing of a drive that ends in time. Any other drive it ends, be it while the
request is written or flushed or while its answer is read: the listener has been told of the
fragments that came in time, and is told of the timeout behind them; the operation has failed, and
the connection is broken (`carry_deadline`).

What came in time is what a drive without a deadline tells up to the last answer of the line that is
in time (`ToldWithin`). So such drives, cut short after any number of answers, are compared with the
one that has a deadline. What is asked of the line is answered in both, or late, or never (`Timed`);
the drives are followed by induction on the answers (`compared_waiting`).
-/

namespace StoreClient

open Operation (Event)

namespace Exchange

/-! ### Turns after which an exchange waits -/

/-- Where an exchange goes on waiting, its operation does, and the listener has only been told of
fragments. -/
def Turn.Quiet (error : Option ServerError) (turn : Turn) : Prop :=
  match turn.progress with
  | .waiting x =>
    x.operation.Awaiting ∧ x.connection.lastServerError = error ∧
      ∀ e ∈ turn.events, ∃ r, e = .response r false
  | .ended _ => True

/-- An exchange that has ended waits for nothing. -/
lemma finish_quiet {error : Option ServerError} (c : Connection) (o : Operation)
    (events : List Event) (outcome : Except Fault Unit) :
    (finish c o events outcome).Quiet error := by
  cases outcome <;> trivial

/-- The frames of a read leave an exchange waiting only where all of them are fragments. -/
lemma drain_quiet {c : Connection} {o : Operation} (aw : o.Awaiting) {events : List Event}
    (told : ∀ e ∈ events, ∃ r, e = .response r false) (frames : List Frame) :
    (drain c o events frames).Quiet c.lastServerError := by
  induction frames generalizing o events with
  | nil =>
    unfold drain
    split
    · exact finish_quiet ..
    · exact ⟨aw, rfl, told⟩
  | cons frame frames ih =>
    have taken := aw.onFrame_taken frame
    simp only [drain]
    generalize o.onFrame frame = step at taken
    cases taken with
    | unread _ | rejected _ _ | refused _ | last _ _ => exact finish_quiet ..
    | @fragment r accumulator ready _ _ =>
      refine ih (o := { o.counted with accumulator, state := .streaming }) ⟨rfl, aw.hears⟩ ?_
      intro e m
      obtain m | m := List.mem_append.1 m
      · exact told e m
      · obtain ⟨r, _, rfl⟩ := List.mem_map.1 m
        exact ⟨r, rfl⟩

/-- An answer of the transport leaves an exchange waiting behind fragments only. -/
lemma resume_quiet {x : Exchange} (aw : x.operation.Awaiting) (answer : Completion) :
    (x.resume answer).Quiet x.connection.lastServerError := by
  unfold resume
  cases x.phase with
  | sending sending =>
    dsimp only
    cases sending.resume answer with
    | more sending => exact ⟨aw, rfl, List.forall_mem_nil _⟩
    | ended result =>
      cases result with
      | error fault => exact finish_quiet ..
      | ok _ => exact drain_quiet aw (List.forall_mem_nil _) _
  | receiving =>
    have kept : (x.connection.afterReading answer).1.lastServerError =
        x.connection.lastServerError := by
      unfold Connection.afterReading
      split <;> rfl
    dsimp only
    split
    · exact finish_quiet ..
    · rename_i read
      rw [read] at kept
      rw [← kept]
      exact drain_quiet aw (List.forall_mem_nil _) _

/-- An exchange waits from the beginning, and nothing has been told. -/
lemma start_quiet (c : Connection) {o : Operation} (fresh : o.state = .encoded)
    (hears : o.listening = true) : (start c o).Quiet c.lastServerError := by
  have begun : o.beginSend =
      { operation := o.beginSend.operation, result := .ok o.request.frame } := by
    simp [Operation.beginSend, fresh]
  unfold start
  split
  · trivial
  · split
    · trivial
    · split
      · trivial
      · rw [begun]
        simp only [Except.bind]
        split
        · exact finish_quiet ..
        · exact ⟨awaiting_begun fresh hears, rfl, List.forall_mem_nil _⟩

end Exchange

namespace Simulation

/-! ### Time -/

/-- What something asked of a line comes to for somebody with patience without end and for somebody
with so much. It is the same if it comes in time. `waits` says how many milliseconds are still to
pass over a line. -/
inductive Timed {σ : Type} [Line σ] (waits : σ → Nat) (capacity : Nat) (await : Await) (left : Nat)
    (line : σ) : Prop where
  | given {completion : Completion} {left' : Nat} {line' : σ} :
    Line.ask line capacity await none = .given completion none line' →
    Line.ask line capacity await (some left) = .given completion (some left') line' →
    waits line + left' = left + waits line' →
    left' ≤ left →
    Timed waits capacity await left line
  | late {completion : Completion} {line' bound : σ} :
    Line.ask line capacity await none = .given completion none line' →
    Line.ask line capacity await (some left) = .overdue bound →
    left + waits line' < waits line →
    Timed waits capacity await left line
  | never {free bound : σ} :
    Line.ask line capacity await none = .overdue free →
    Line.ask line capacity await (some left) = .overdue bound →
    waits free ≤ waits line →
    Timed waits capacity await left line

section Timed

variable {σ : Type} [Line σ] {waits : σ → Nat} {capacity left milliseconds : Nat} {await : Await}
  {line line' bound : σ}

/-- Behind a wait that is over in time, a line answers as it does without the wait. -/
lemma Timed.after_soon (h : Timed waits capacity await (left - milliseconds) line')
    (soon : milliseconds ≤ left) (sum : waits line = milliseconds + waits line')
    (free : Line.ask line capacity await none = Line.ask line' capacity await none)
    (bounded : Line.ask line capacity await (some left) =
      Line.ask line' capacity await (some (left - milliseconds))) :
    Timed waits capacity await left line := by
  cases h with
  | given free' bounded' sum' less =>
    exact .given (free.trans free') (bounded.trans bounded') (by omega) (by omega)
  | late free' bounded' later => exact .late (free.trans free') (bounded.trans bounded') (by omega)
  | never free' bounded' passed =>
    exact .never (free.trans free') (bounded.trans bounded') (by omega)

/-- Behind a wait that outlasts patience, a line is late or never answers. -/
lemma Timed.after_late (h : Timed waits capacity await 0 line') (late_ : left < milliseconds)
    (sum : waits line = milliseconds + waits line')
    (free : Line.ask line capacity await none = Line.ask line' capacity await none)
    (bounded : Line.ask line capacity await (some left) = .overdue bound) :
    Timed waits capacity await left line := by
  cases h with
  | given free' _ sum' less => exact .late (free.trans free') bounded (by omega)
  | late free' _ later => exact .late (free.trans free') bounded (by omega)
  | never free' _ passed => exact .never (free.trans free') bounded (by omega)

end Timed

namespace Script

/-- A read of a script is in time, or late, or never comes to anything. -/
lemma timed_read (capacity left : Nat) (s : Script) (reads : List ReadStep) :
    Timed (waits ·.reads) capacity .read left { s with reads } := by
  induction reads generalizing left with
  | nil => exact .given rfl rfl (Nat.add_comm ..) le_rfl
  | cons step reads ih =>
    cases step with
    | data bytes =>
      refine .given rfl rfl ?_ le_rfl
      rw [Nat.add_comm]
      dsimp only
      split <;> rfl
    | failed cause => exact .given rfl rfl (Nat.add_comm ..) le_rfl
    | stall => exact .never rfl rfl le_rfl
    | delay milliseconds =>
      by_cases soon : milliseconds ≤ left
      · have bounded : Line.ask { s with reads := .delay milliseconds :: reads } capacity .read
            (some left) =
              Line.ask { s with reads } capacity .read (some (left - milliseconds)) := by
          simp only [Line.ask, ask, readInput, Patience.after?, if_pos soon]
        exact (ih (left - milliseconds)).after_soon soon rfl rfl bounded
      · have bounded : Line.ask { s with reads := .delay milliseconds :: reads } capacity .read
            (some left) = .overdue { s with reads } := by
          simp only [Line.ask, ask, readInput, Patience.after?, if_neg soon]
        exact (ih 0).after_late (Nat.lt_of_not_le soon) rfl rfl bounded

/-- A script answers writes and flushes at once. -/
lemma ask_at_once (s : Script) (capacity : Nat) {await : Await} (other : await ≠ .read) :
    ∃ completion s',
      (∀ patience, Line.ask s capacity await patience = .given completion patience s') ∧
        s'.reads = s.reads := by
  obtain ⟨reads, writes, flushes, written⟩ := s
  cases await with
  | read => exact absurd rfl other
  | write bytes =>
    cases writes with
    | nil => exact ⟨_, _, fun _ => rfl, rfl⟩
    | cons write writes => cases write <;> exact ⟨_, _, fun _ => rfl, rfl⟩
  | flush =>
    cases flushes with
    | nil => exact ⟨_, _, fun _ => rfl, rfl⟩
    | cons flush flushes => cases flush <;> exact ⟨_, _, fun _ => rfl, rfl⟩

end Script

/-- How many milliseconds a pause takes, if it ends. -/
def Pause.length : Pause → Nat
  | .delay milliseconds => milliseconds
  | .stall => 0

namespace Paced

/-- How many milliseconds are still to pass over a paced script. -/
def waits (p : Paced) : Nat := Script.waits p.script.reads + (p.pauses.map Pause.length).sum

/-- How many milliseconds pass until this much of a paced script is left. -/
def elapsed (p rest : Paced) : Nat := p.waits - rest.waits

/-- Behind its pause a write or a flush is answered by the script. -/
lemma ask_passed {p : Paced} {capacity : Nat} {await : Await} {patience left : Patience}
    {pauses : List Pause} (other : await ≠ .read)
    (passed : pass p.pauses patience = (some left, pauses)) :
    Line.ask p capacity await patience =
      (Line.ask p.script capacity await left).map fun script => { script, pauses } := by
  cases await with
  | read => exact absurd rfl other
  | write bytes | flush => simp only [Line.ask, ask, passed]

/-- Where a pause outlasts patience, a write or a flush is not answered. -/
lemma ask_paused {p : Paced} {capacity : Nat} {await : Await} {patience : Patience}
    {pauses : List Pause} (other : await ≠ .read)
    (paused : pass p.pauses patience = (none, pauses)) :
    Line.ask p capacity await patience = .overdue { p with pauses } := by
  cases await with
  | read => exact absurd rfl other
  | write bytes | flush => simp only [Line.ask, ask, paused]

/-- A write or a flush is in time where the pause before it is. -/
lemma timed_pause (capacity left : Nat) (p : Paced) {await : Await} (other : await ≠ .read) :
    Timed waits capacity await left p := by
  obtain ⟨script, pauses⟩ := p
  obtain ⟨completion, script', now, reads⟩ := script.ask_at_once capacity other
  have given {pauses pauses' : List Pause} {patience left_ : Patience}
      (passed : pass pauses patience = (some left_, pauses')) :
      Line.ask (⟨script, pauses⟩ : Paced) capacity await patience =
        .given completion left_ ⟨script', pauses'⟩ :=
    (ask_passed other passed).trans (congrArg (Answer.map _) (now left_))
  cases pauses with
  | nil =>
    refine .given (given rfl) (given rfl) ?_ le_rfl
    simp only [waits, reads, List.map_nil]
    omega
  | cons pause pauses =>
    cases pause with
    | stall =>
      have same : waits ⟨script, pauses⟩ ≤ waits ⟨script, .stall :: pauses⟩ := by
        simp [waits, Pause.length]
      exact .never (ask_paused other rfl) (ask_paused other rfl) same
    | delay milliseconds =>
      have sum : waits ⟨script, .delay milliseconds :: pauses⟩ =
          milliseconds + waits ⟨script', pauses⟩ := by
        simp only [waits, reads, Pause.length, List.map_cons, List.sum_cons]
        omega
      by_cases soon : milliseconds ≤ left
      · have passed : pass (.delay milliseconds :: pauses) (some left) =
            (some (some (left - milliseconds)), pauses) := by
          simp only [pass, Patience.after?, if_pos soon]
        exact .given (given rfl) (given passed) (by omega) (by omega)
      · have paused : pass (.delay milliseconds :: pauses) (some left) = (none, pauses) := by
          simp only [pass, Patience.after?, if_neg soon]
        exact .late (given rfl) (ask_paused other paused) (by omega)

/-- What is asked of a paced script is answered in time, or late, or never. -/
lemma timed (capacity : Nat) (await : Await) (left : Nat) (p : Paced) :
    Timed waits capacity await left p := by
  cases await with
  | write bytes => exact p.timed_pause capacity left nofun
  | flush => exact p.timed_pause capacity left nofun
  | read =>
    obtain ⟨script, pauses⟩ := p
    have asked (patience : Patience) :
        Line.ask (⟨script, pauses⟩ : Paced) capacity .read patience =
          (Line.ask script capacity .read patience).map fun script => ⟨script, pauses⟩ := rfl
    cases script.timed_read capacity left script.reads with
    | given free bound sum less =>
      refine .given ((asked _).trans (congrArg _ free)) ((asked _).trans (congrArg _ bound)) ?_ less
      simp only [waits] at sum ⊢
      omega
    | late free bound later =>
      refine .late ((asked _).trans (congrArg _ free)) ((asked _).trans (congrArg _ bound)) ?_
      simp only [waits] at later ⊢
      omega
    | never free bound passed =>
      refine .never ((asked _).trans (congrArg _ free)) ((asked _).trans (congrArg _ bound)) ?_
      simp only [waits] at passed ⊢
      omega

end Paced

/-! ### Drives side by side -/

section drives

variable {σ : Type}

/-- A drive that the deadline has ended: what the listener had been told, and then the timeout. -/
structure Driven.TimedOut (d : Driven σ) (told : List Event) (error : Option ServerError) :
    Prop where
  result : d.result = some (.ok .failed)
  events : d.events = told ++ [.fault .timeout]
  broken : d.connection.broken = true
  inFlight : d.connection.inFlight = false
  lastServerError : d.connection.lastServerError = error

/-- What is told within so many milliseconds by a drive that is cut short after any number of
answers: all that it tells up to one that is in time, and no less than up to any other. -/
structure ToldWithin (waits : σ → Nat) (left : Nat) (line : σ) (short : Nat → Driven σ)
    (heard : List Event) : Prop where
  reached : ∃ n, waits line - waits (short n).line ≤ left ∧ (short n).events = heard
  last : ∀ n, waits line - waits (short n).line ≤ left → (short n).events <+: heard

/-- A drive without a deadline, the one with it after so many milliseconds, and the former cut short
after any number of answers: either the first ends in time, and then the second is no other; or the
second is timed out behind what is told within the time. -/
inductive Compared (waits : σ → Nat) (left : Nat) (line : σ) (error : Option ServerError)
    (free bound : Driven σ) (short : Nat → Driven σ) : Prop where
  | kept :
    free.result ≠ none →
    waits line - waits free.line ≤ left →
    bound = free →
    Compared waits left line error free bound short
  | cut {heard : List Event} :
    (free.result ≠ none → left < waits line - waits free.line) →
    bound.TimedOut heard error →
    (∀ e ∈ heard, ∃ r, e = .response r false) →
    heard <+: free.events →
    ToldWithin waits left line short heard →
    Compared waits left line error free bound short

variable {waits : σ → Nat} {x : Exchange} {line : σ} {steps left limit : Nat} {heard : List Event}

/-- Wherever an exchange waits, its deadline breaks the connection and is told. -/
lemma timedOut_cutOff (aw : x.operation.Awaiting) (line : σ) (heard : List Event) :
    (cutOff { deadline := some limit } x line heard).TimedOut heard
      x.connection.lastServerError := by
  simp only [cutOff, Limits.cut?, Exchange.expire, Exchange.finish,
    Operation.fail_of_open aw.isTerminal aw.hears]
  exact ⟨rfl, rfl, rfl, rfl, rfl⟩

/-- What is told within the time that an answer leaves is told within the time before it. -/
lemma ToldWithin.earlier {left' : Nat} {line' : σ} {short short' : Nat → Driven σ}
    (h : ToldWithin waits left' line' short' heard)
    (sum : waits line + left' = left + waits line') (later : ∀ n, short (n + 1) = short' n)
    (before : ∀ n, (short 0).events <+: (short' n).events) :
    ToldWithin waits left line short heard := by
  obtain ⟨n, soon, same⟩ := h.reached
  refine ⟨⟨n + 1, ?_, ?_⟩, fun m soon' => ?_⟩
  · rw [later]
    omega
  · rw [later, same]
  · cases m with
    | zero =>
      rw [← same]
      exact before n
    | succ m =>
      rw [later] at soon' ⊢
      exact h.last m (by omega)

/-- What has been told before the next answer is all, if no drive that goes on and is in time tells
more. -/
lemma ToldWithin.now {short : Nat → Driven σ} (begun : short 0 = cutOff {} x line heard)
    (last : ∀ n, waits line - waits (short (n + 1)).line ≤ left →
      (short (n + 1)).events <+: heard) : ToldWithin waits left line short heard := by
  have told : (short 0).events = heard := by
    rw [begun]
    rfl
  refine ⟨⟨0, ?_, told⟩, fun n soon => ?_⟩
  · rw [begun]
    exact (Nat.sub_self _).le.trans (Nat.zero_le _)
  · cases n with
    | zero =>
      rw [told]
    | succ n => exact last n soon

variable [Line σ]

/-- A drive without a deadline, cut short after so many answers of the line. -/
def carryUntil (c : Connection) (o : Operation) (line : σ) (answers : Nat) : Driven σ :=
  let turn := Exchange.start c o
  carryFrom {} (min answers (carrySteps turn line)) none turn line []

/-- An exchange that waits when the answers are used up is cut off. -/
lemma carryFrom_spent {limits : Limits} {patience : Patience} :
    carryFrom limits 0 patience { progress := .waiting x } line heard =
      cutOff limits x line heard := by
  rw [carryFrom]
  simp only [List.append_nil]

/-- After a turn an exchange waits with what has been told in it. -/
lemma carryFrom_waiting {limits : Limits} {patience : Patience} {turn : Exchange.Turn}
    (progress : turn.progress = .waiting x) :
    carryFrom limits steps patience turn line heard =
      carryFrom limits steps patience { progress := .waiting x } line (heard ++ turn.events) := by
  rw [carryFrom_events, progress]

/-- What comes of something asked without a deadline takes no time back. -/
lemma Timed.given_le {capacity : Nat} {await : Await} {line' : σ} {completion : Completion}
    {patience : Patience} (t : Timed waits capacity await left line)
    (e : Line.ask line capacity await none = .given completion patience line') :
    patience = none ∧ waits line' ≤ waits line := by
  cases t with
  | given free _ sum less =>
    cases e.symm.trans free
    exact ⟨rfl, by omega⟩
  | late free _ later =>
    cases e.symm.trans free
    exact ⟨rfl, by omega⟩
  | never free _ _ => cases e.symm.trans free

/-- Nor does what never comes. -/
lemma Timed.overdue_le {capacity : Nat} {await : Await} {line' : σ}
    (t : Timed waits capacity await left line)
    (e : Line.ask line capacity await none = .overdue line') : waits line' ≤ waits line := by
  cases t with
  | given free _ _ _ => cases e.symm.trans free
  | late free _ _ => cases e.symm.trans free
  | never free _ passed =>
    cases e.symm.trans free
    exact passed

/-- After a turn, drives compare as they do while the exchange waits. -/
lemma compared_turn {turn : Exchange.Turn} {error : Option ServerError} (quiet : turn.Quiet error)
    (fragments : ∀ e ∈ heard, ∃ r, e = .response r false)
    (waiting : ∀ {x : Exchange} {heard : List Event}, x.operation.Awaiting →
      (∀ e ∈ heard, ∃ r, e = .response r false) →
      Compared waits left line x.connection.lastServerError
        (carryFrom {} steps none { progress := .waiting x } line heard)
        (carryFrom { deadline := some limit } steps (some left) { progress := .waiting x } line
          heard)
        fun n => carryFrom {} (min n steps) none { progress := .waiting x } line heard) :
    Compared waits left line error (carryFrom {} steps none turn line heard)
      (carryFrom { deadline := some limit } steps (some left) turn line heard)
      fun n => carryFrom {} (min n steps) none turn line heard := by
  unfold Exchange.Turn.Quiet at quiet
  cases progress : turn.progress with
  | ended e =>
    rw [carryFrom_ended progress, carryFrom_ended progress]
    exact .kept nofun (by simp) rfl
  | waiting x =>
    rw [progress] at quiet
    obtain ⟨aw, rfl, told⟩ := quiet
    simp only [carryFrom_waiting progress]
    exact waiting aw (List.forall_mem_append.2 ⟨fragments, told⟩)

section lawful

variable (lawful : ∀ capacity await left line, Timed waits capacity await left (line : σ))

include lawful

/-- A drive tells the listener more and more, and time passes as it goes on. -/
lemma carryFrom_grows (steps : Nat) (turn : Exchange.Turn) (line : σ) (heard : List Event) :
    let d := carryFrom {} steps none turn line heard
    heard <+: d.events ∧ waits d.line ≤ waits line := by
  dsimp only
  have told : heard <+: heard ++ turn.events := List.prefix_append _ _
  induction steps generalizing turn line heard with
  | zero =>
    cases progress : turn.progress with
    | ended e =>
      rw [carryFrom_ended progress]
      exact ⟨told, le_rfl⟩
    | waiting x =>
      rw [carryFrom_waiting progress, carryFrom_spent]
      exact ⟨told, le_rfl⟩
  | succ steps ih =>
    cases progress : turn.progress with
    | ended e =>
      rw [carryFrom_ended progress]
      exact ⟨told, le_rfl⟩
    | waiting x =>
      rw [carryFrom_waiting progress]
      cases ask : Line.ask line x.connection.readCapacity x.await none with
      | overdue line' =>
        rw [carryFrom_overdue ask]
        exact ⟨told, (lawful _ _ 0 line).overdue_le ask⟩
      | given completion patience line' =>
        obtain ⟨rfl, passed⟩ := (lawful _ _ 0 line).given_le ask
        obtain ⟨more, passed'⟩ := ih (x.resume completion) line' (heard ++ turn.events)
          (List.prefix_append _ _)
        rw [carryFrom_given ask]
        exact ⟨told.trans more, passed'.trans passed⟩

/-- Drives that wait compare, whatever the line answers. -/
lemma compared_waiting (aw : x.operation.Awaiting)
    (fragments : ∀ e ∈ heard, ∃ r, e = .response r false) :
    Compared waits left line x.connection.lastServerError
      (carryFrom {} steps none { progress := .waiting x } line heard)
      (carryFrom { deadline := some limit } steps (some left) { progress := .waiting x } line heard)
      fun n => carryFrom {} (min n steps) none { progress := .waiting x } line heard := by
  induction steps generalizing x line left heard with
  | zero =>
    simp only [Nat.min_zero, carryFrom_spent]
    exact .cut (absurd rfl) (timedOut_cutOff aw line heard) fragments List.prefix_rfl
      (.now rfl fun _ _ => List.prefix_rfl)
  | succ steps ih =>
    have begun : carryFrom {} (min 0 (steps + 1)) none { progress := .waiting x } line heard =
        cutOff {} x line heard := by
      rw [Nat.zero_min, carryFrom_spent]
    cases lawful x.connection.readCapacity x.await left line with
    | @given completion left' line' free bound sum less =>
      have short (n : Nat) :
          carryFrom {} (min (n + 1) (steps + 1)) none { progress := .waiting x } line heard =
            carryFrom {} (min n steps) none (x.resume completion) line' heard := by
        rw [Nat.add_min_add_right, carryFrom_given free]
      rw [carryFrom_given free, carryFrom_given bound]
      cases compared_turn (Exchange.resume_quiet aw completion) fragments ih with
      | kept ended soon same => exact .kept ended (by omega) same
      | cut late_ out fragments' told within =>
        refine .cut (fun ended => ?_) out fragments' told (within.earlier sum short fun n => ?_)
        · have later := late_ ended
          omega
        · rw [begun]
          exact (carryFrom_grows lawful _ _ line' heard).1
    | @late completion line' line'' free bound later =>
      -- Only the drive without a deadline goes on; whatever it comes to, that is later still.
      obtain ⟨told, passed⟩ := carryFrom_grows lawful steps (x.resume completion) line' heard
      rw [carryFrom_given free, carryFrom_overdue bound]
      refine .cut (fun _ => by omega) (timedOut_cutOff aw line'' heard) fragments told
        (.now begun fun n soon => ?_)
      have passed' := (carryFrom_grows lawful (min n steps) (x.resume completion) line' heard).2
      rw [Nat.add_min_add_right, carryFrom_given free] at soon
      omega
    | @never line' line'' free bound passed =>
      rw [carryFrom_overdue free, carryFrom_overdue bound]
      refine .cut (absurd rfl) (timedOut_cutOff aw line'' heard) fragments List.prefix_rfl
        (.now begun fun n _ => ?_)
      rw [Nat.add_min_add_right, carryFrom_overdue free]
      exact List.prefix_rfl

/-- The drives of a new operation compare, whatever the line answers. -/
lemma compared_carry (c : Connection) {o : Operation} (fresh : o.state = .encoded)
    (hears : o.listening = true) (line : σ) (limit : Nat) :
    Compared waits limit line c.lastServerError (carry c o line {})
      (carry c o line { deadline := some limit }) (carryUntil c o line) :=
  compared_turn (Exchange.start_quiet c fresh hears) (List.forall_mem_nil _)
    (compared_waiting lawful)

end lawful

end drives

/-! ### Scripts without pauses -/

/-- The same drive over another line. -/
def Driven.map {σ τ : Type} (f : σ → τ) (d : Driven σ) : Driven τ := { d with line := f d.line }

/-- Without pauses a paced script is carried over as the script is. -/
lemma carryFrom_unpaced (limits : Limits) (steps : Nat) (patience : Patience)
    (turn : Exchange.Turn) (script : Script) (heard : List Event) :
    carryFrom limits steps patience turn ({ script } : Paced) heard =
      (carryFrom limits steps patience turn script heard).map fun script => { script } := by
  have cut (x : Exchange) (script : Script) (heard : List Event) :
      cutOff limits x ({ script } : Paced) heard =
        (cutOff limits x script heard).map fun script => { script } := by
    unfold cutOff
    dsimp only
    split <;> rfl
  induction steps generalizing patience turn script heard with
  | zero =>
    cases progress : turn.progress with
    | ended e =>
      rw [carryFrom_ended progress, carryFrom_ended progress]
      rfl
    | waiting x =>
      rw [carryFrom_waiting progress, carryFrom_waiting progress, carryFrom_spent, carryFrom_spent,
        cut]
  | succ steps ih =>
    cases progress : turn.progress with
    | ended e =>
      rw [carryFrom_ended progress, carryFrom_ended progress]
      rfl
    | waiting x =>
      rw [carryFrom_waiting progress, carryFrom_waiting progress]
      have asked : Line.ask ({ script } : Paced) x.connection.readCapacity x.await patience =
          (Line.ask script x.connection.readCapacity x.await patience).map
            fun script => { script } := by
        cases x.await <;> rfl
      cases answer : Line.ask script x.connection.readCapacity x.await patience with
      | overdue script' =>
        rw [answer] at asked
        rw [carryFrom_overdue answer, carryFrom_overdue asked, cut]
      | given completion patience' script' =>
        rw [answer] at asked
        rw [carryFrom_given answer, carryFrom_given asked, ih]

/-- What holds of operations that are carried over paced scripts holds over scripts. -/
lemma carry_unpaced (c : Connection) (o : Operation) (script : Script) (limits : Limits) :
    carry c o ({ script } : Paced) limits =
      (carry c o script limits).map fun script => { script } :=
  carryFrom_unpaced limits _ _ _ script []

/-! ### Deadlines -/

/-- A new operation, carried over any connection and any script that takes its time with reads,
writes and flushes. Where the drive without a deadline ends in time, the one with it is the same in
all that it tells and leaves. Where the former ends later or never, the latter tells of just the
fragments that come in time, and behind them of the timeout, wherever it was cut off; the operation
has failed, and the connection is broken and no longer in flight. What comes at the very moment of
the deadline is in time. -/
theorem carry_deadline (c : Connection) (request : Request) (delivery : Delivery) (line : Paced)
    (limit : Nat) :
    let o := Operation.ofRequest request delivery
    let free := carry c o line {}
    let bound := carry c o line { deadline := some limit }
    (free.result ≠ none → line.elapsed free.line ≤ limit → bound = free) ∧
      (free.result = none ∨ limit < line.elapsed free.line →
        ∃ heard, bound.TimedOut heard c.lastServerError ∧
          (∀ e ∈ heard, ∃ r, e = .response r false) ∧
          heard <+: free.events ∧
          ToldWithin Paced.waits limit line (carryUntil c o line) heard) := by
  intro o free bound
  have compared : Compared Paced.waits limit line c.lastServerError free bound _ :=
    compared_carry Paced.timed c rfl rfl line limit
  cases compared with
  | kept ended soon same =>
    refine ⟨fun _ _ => same, fun late_ => ?_⟩
    obtain never | later := late_
    · exact absurd never ended
    · exact absurd soon (Nat.not_le.2 later)
  | @cut heard late_ out fragments told within =>
    refine ⟨fun ended soon => ?_, fun _ => ⟨heard, out, fragments, told, within⟩⟩
    exact absurd soon (Nat.not_le.2 (late_ ended))

/-- A listing of keys in two parts, with a wait of three milliseconds before the request is written,
of one before it is flushed, and of five within the second part. It is done in time, or cut off
within the second part, or before the request is written or flushed. -/
theorem carry_deadline_listKeys :
    let c : Connection := .ofStream 1 ⟨"a", 1⟩ Frame.defaultMaxLength
    let o := Operation.ofRequest (.listKeys { bucket := [98] }) .perFragment
    let line : Paced :=
      { script :=
          { reads := [.data [0, 0, 0, 4, 18, 10, 1, 7, 0, 0], .delay 5, .data [0, 3, 18, 16, 1]] }
        pauses := [.delay 3, .delay 1] }
    let free := carry c o line {}
    let late_ (limit : Nat) := carry c o line { deadline := some limit }
    free.result = some (.ok .done) ∧
      line.elapsed free.line = 9 ∧
      late_ 10 = free ∧
      (late_ 8).TimedOut [.response (.keys [[7]]) false] none ∧
      (late_ 3).TimedOut [] none ∧
      (late_ 3).line.script.written = o.request.frame.bytes ∧
      (late_ 2).TimedOut [] none ∧
      (late_ 2).line.script.written = [] := by
  intro c o line free late_
  have done : free.result = some (.ok .done) := by decide +kernel
  have elapsed : line.elapsed free.line = 9 := by decide +kernel
  have deadline (limit : Nat) :=
    carry_deadline c (.listKeys { bucket := [98] }) .perFragment line limit
  have cut {limit : Nat} (soon : limit < 9) {told : List Event}
      (e : (late_ limit).events = told ++ [.fault .timeout]) : (late_ limit).TimedOut told none := by
    obtain ⟨heard, out, _⟩ := (deadline limit).2 (.inr (by rw [elapsed]; exact soon))
    obtain rfl : heard = told := List.append_cancel_right (out.events.symm.trans e)
    exact out
  refine ⟨done, elapsed, (deadline 10).1 (by rw [done]; nofun) (by rw [elapsed]; decide),
    cut (by decide) ?_, cut (by decide) ?_, ?_, cut (by decide) ?_, ?_⟩
  all_goals decide +kernel

end Simulation

end StoreClient
