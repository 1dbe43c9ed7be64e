import Mathlib
import StoreClient.Proofs.Answer

/-!
# Both ways of delivery

An operation delivers its answer whole or fragment by fragment. Two operations for one request that
differ in this alone (`Operation.inParts`) go the same way: every call is answered alike and leaves
them alike but for what is held back (`Matched.perform`). What their listeners hear differs, and
`Heard` says how: each fragment on one side, and on the other the whole of them.

It rests on what an operation holds back, which can always be joined with the next fragment
(`Tidy.join`). The headline is `deliveries_agree`.
-/

namespace StoreClient

namespace Operation

/-! ### Operations that merge -/

/-- The same operation, had it delivered every fragment from the beginning. -/
def inParts (o : Operation) : Operation :=
  { o with accumulator := { o.accumulator with delivery := .perFragment, held := none } }

/-- The counterpart is in the same state. -/
@[simp] lemma inParts_state (o : Operation) : o.inParts.state = o.state := rfl

/-- The counterpart waits for an answer of the same kind. -/
@[simp] lemma inParts_kind (o : Operation) : o.inParts.kind = o.kind := rfl

/-- The counterpart has its outcome at the same time. -/
@[simp] lemma inParts_isTerminal (o : Operation) : o.inParts.isTerminal = o.isTerminal := rfl

/-- The books of an operation that merges are in order: the listener is there as long as the outcome
is open, the accumulator is done once the answer is complete, and what is held back is the beginning
of a streaming answer of its kind. -/
structure Tidy (o : Operation) : Prop where
  merged : o.delivery = .merged
  attended : o.Attended
  ended : o.accumulator.done = true ↔ o.state = .done
  held : ∀ r ∈ o.accumulator.held, o.kind.isStreaming = true ∧ o.kind.Admits r

/-- The books of a new operation are in order. -/
lemma tidy_ofRequest (request : Request) : (ofRequest request .merged).Tidy :=
  ⟨rfl, rfl, by simp [ofRequest], by simp [ofRequest]⟩

/-- What comes in answer can be joined to what is held back. -/
lemma Tidy.join {o : Operation} {frame : Frame} {r : Response} {done : Bool} (h : o.Tidy)
    (read : o.kind.read frame = .ok (.fragment r done)) :
    ∃ whole, Accumulator.join o.accumulator.held r = .ok whole ∧ o.kind.Admits whole := by
  have fits := ResponseKind.read_admits read
  cases e : o.accumulator.held with
  | none => exact ⟨r, rfl, fits⟩
  | some before =>
    obtain ⟨stream, fits'⟩ := h.held before e
    exact fits'.merge fits stream

/-- An operation that merges, with one more fragment taken. -/
def gaining (o : Operation) (r : Response) (done : Bool) (held : Option Response) : Operation :=
  { o.counted with
    accumulator :=
      { o.accumulator with
        held
        fragments := o.accumulator.fragments + 1
        elements := o.accumulator.elements + r.length
        done }
    state := if done then .done else .streaming
    listening := !done }

/-- What becomes of an operation by a fragment that its accumulator takes. -/
lemma onFragment_of_push {o : Operation} {r : Response} {done : Bool} {accumulator : Accumulator}
    {ready : Option Response} (hears : o.listening = true)
    (push : o.accumulator.push r done = (accumulator, .ok ready)) :
    o.onFragment r done =
      { operation :=
          { o with accumulator, state := if done then .done else .streaming, listening := !done }
        events := ready.toList.map (.response · done)
        result := .ok (if done then .done else .more) } := by
  simp only [onFragment, push, deliver, hears]
  cases done <;> rfl

/-- What a frame brings about where the answer is delivered whole, and where it is delivered in
parts. -/
inductive Parted (o : Operation) (frame : Frame) :
    Step (Except Fault Progress) → Step (Except Fault Progress) → Prop where
  | unread {fault} :
    o.kind.read frame = .error fault →
    Parted o frame
      { operation := o.counted, result := .error fault }
      { operation := o.counted.inParts, result := .error fault }
  | refused {error} :
    o.kind.read frame = .ok (.refusal error) →
    Parted o frame
      { operation := { o.counted with state := .failed, listening := false }
        events := [.fault (.server error)]
        result := .ok (.failed error) }
      { operation := inParts { o.counted with state := .failed, listening := false }
        events := [.fault (.server error)]
        result := .ok (.failed error) }
  | fragment {r whole} :
    o.kind.read frame = .ok (.fragment r false) →
    Accumulator.join o.accumulator.held r = .ok whole →
    Parted o frame
      { operation := o.gaining r false (some whole), result := .ok .more }
      { operation := (o.gaining r false (some whole)).inParts
        events := [.response r false]
        result := .ok .more }
  | last {r whole} :
    o.kind.read frame = .ok (.fragment r true) →
    Accumulator.join o.accumulator.held r = .ok whole →
    Parted o frame
      { operation := o.gaining r true none
        events := [.response whole true]
        result := .ok .done }
      { operation := (o.gaining r true none).inParts
        events := [.response r true]
        result := .ok .done }

/-- A frame that is waited for brings about no more than `Parted` says. -/
lemma Tidy.onFrame_parted {o : Operation} (h : o.Tidy) (waits : o.state.isWaiting = true)
    (frame : Frame) : Parted o frame (o.onFrame frame) (o.inParts.onFrame frame) := by
  have aw : o.Awaiting := ⟨waits, h.attended.hears (State.isTerminal_of_isWaiting waits)⟩
  have aw' : o.inParts.Awaiting := ⟨waits, aw.hears⟩
  rw [onFrame_of_waiting waits, onFrame_of_waiting aw'.waits, inParts_kind]
  cases read : o.kind.read frame with
  | error fault => exact .unread read
  | ok reading =>
    cases reading with
    | refusal error =>
      simp only [fail_of_open aw.counted.isTerminal aw.counted.hears,
        fail_of_open aw'.counted.isTerminal aw'.counted.hears]
      exact .refused read
    | fragment r done =>
      obtain ⟨whole, j, _⟩ := h.join read
      have open_ : o.accumulator.done = false := by
        rw [Bool.eq_false_iff, ne_eq, h.ended]
        intro e
        simp [e, State.isWaiting] at waits
      show Parted o frame (o.counted.onFragment r done) (o.inParts.counted.onFragment r done)
      rw [onFragment_of_push aw.counted.hears (Accumulator.push_of_join done h.merged open_ j),
        onFragment_of_push aw'.counted.hears (Accumulator.push_of_perFragment r done rfl open_)]
      cases done with
      | true => exact .last read j
      | false => exact .fragment read j

/-! ### What is heard -/

/-- What the listener of the whole and the listener of the parts have heard, of an operation that
has taken these fragments. -/
inductive Heard (o : Operation) (fragments : List Response) : List Event → List Event → Prop where
  | pending :
    o.isTerminal = false →
    Answer.Held fragments o.accumulator.held →
    Heard o fragments [] (fragments.map (.response · false))
  | complete {before last whole} :
    o.state = .done →
    fragments = before ++ [last] →
    Answer.Held fragments (some whole) →
    Heard o fragments [.response whole true]
      (before.map (.response · false) ++ [.response last true])
  | failed {fault} :
    o.state = .failed →
    Heard o fragments [.fault fault] (fragments.map (.response · false) ++ [.fault fault])

/-- An operation that merges has taken these fragments, and its listener and that of its counterpart
have heard of them. -/
structure Matched (o : Operation) (fragments : List Response) (whole parts : List Event) :
    Prop where
  tidy : o.Tidy
  elements : o.accumulator.elements = (fragments.map Response.length).sum
  heard : Heard o fragments whole parts

/-- A new operation and its counterpart have heard nothing. -/
lemma matched_ofRequest (request : Request) : Matched (ofRequest request .merged) [] [] [] :=
  ⟨tidy_ofRequest request, rfl, .pending rfl rfl⟩

section Matched

variable {o o' : Operation} {fragments : List Response} {whole parts : List Event}

/-- Nothing is heard while the outcome is open. -/
lemma Matched.pending (h : Matched o fragments whole parts) (open_ : o.isTerminal = false) :
    Answer.Held fragments o.accumulator.held ∧ whole = [] ∧
      parts = fragments.map (.response · false) := by
  cases h.heard with
  | pending _ held => exact ⟨held, rfl, rfl⟩
  | complete done => simp [isTerminal, done, State.isTerminal] at open_
  | failed failed => simp [isTerminal, failed, State.isTerminal] at open_

/-- The whole is heard once the answer is complete. -/
lemma Matched.complete (h : Matched o fragments whole parts) (done : o.state = .done) :
    ∃ before last joined, fragments = before ++ [last] ∧ whole = [.response joined true] ∧
      parts = before.map (.response · false) ++ [.response last true] ∧
      Answer.Held fragments (some joined) := by
  cases h.heard with
  | pending open_ _ => simp [isTerminal, done, State.isTerminal] at open_
  | complete _ e held => exact ⟨_, _, _, e, rfl, rfl, held⟩
  | failed failed => simp [done] at failed

/-- Of an operation that has failed, no whole is heard. -/
lemma Matched.failed (h : Matched o fragments whole parts) (failed : o.state = .failed) :
    ∃ fault, whole = [.fault fault] ∧
      parts = fragments.map (.response · false) ++ [.fault fault] := by
  cases h.heard with
  | pending open_ _ => simp [isTerminal, failed, State.isTerminal] at open_
  | complete done => simp [failed] at done
  | failed _ => exact ⟨_, rfl, rfl⟩

/-- What is heard stays the same where only the state moves on, and the outcome stays open. -/
lemma Matched.still (h : Matched o fragments whole parts) (open_ : o.isTerminal = false)
    (open' : o'.isTerminal = false) (request : o'.request = o.request)
    (accumulator : o'.accumulator = o.accumulator) (listening : o'.listening = o.listening) :
    Matched o' fragments whole parts := by
  obtain ⟨held, rfl, rfl⟩ := h.pending open_
  have notDone : o.state ≠ .done := by
    intro e
    simp [isTerminal, e, State.isTerminal] at open_
  have notDone' : o'.state ≠ .done := by
    intro e
    simp [isTerminal, e, State.isTerminal] at open'
  refine ⟨⟨?_, ?_, ?_, ?_⟩, ?_, .pending open' (accumulator ▸ held)⟩
  · exact (congrArg Accumulator.delivery accumulator).trans h.tidy.merged
  · show o'.listening = !o'.isTerminal
    rw [listening, open', h.tidy.attended, open_]
  · rw [accumulator, h.tidy.ended]
    exact iff_of_false notDone notDone'
  · have kind : o'.kind = o.kind := congrArg EncodedRequest.kind request
    rw [accumulator, kind]
    exact h.tidy.held
  · rw [accumulator, h.elements]

/-- Both listeners hear of a fault. -/
lemma Matched.fail (h : Matched o fragments whole parts) (open_ : o.isTerminal = false)
    (fault : Fault) :
    Matched { o with state := .failed, listening := false } fragments (whole ++ [.fault fault])
      (parts ++ [.fault fault]) := by
  obtain ⟨held, rfl, rfl⟩ := h.pending open_
  have open' : o.accumulator.done = false := by
    rw [Bool.eq_false_iff, ne_eq, h.tidy.ended]
    intro e
    simp [isTerminal, e, State.isTerminal] at open_
  exact ⟨⟨h.tidy.merged, rfl, by simp [open'], h.tidy.held⟩, h.elements, .failed rfl⟩

/-- One listener hears of a fragment, and it is held back from the other. -/
lemma Matched.fragment {frame : Frame} {r joined : Response} (h : Matched o fragments whole parts)
    (open_ : o.isTerminal = false) (read : o.kind.read frame = .ok (.fragment r false))
    (j : Accumulator.join o.accumulator.held r = .ok joined) :
    Matched (o.gaining r false (some joined)) (fragments ++ [r]) whole
      (parts ++ [.response r false]) := by
  obtain ⟨held, rfl, rfl⟩ := h.pending open_
  have stream : o.kind.isStreaming = true := by
    by_contra single
    exact absurd (ResponseKind.read_last read (by simpa using single)) (by simp)
  obtain ⟨joined', j', admits⟩ := h.tidy.join read
  obtain rfl : joined = joined' := Except.ok.inj (j.symm.trans j')
  refine ⟨⟨h.tidy.merged, rfl, by simp [gaining], ?_⟩, ?_, ?_⟩
  · intro r' m
    cases m
    exact ⟨stream, admits⟩
  · simp [gaining, h.elements]
  · rw [← List.map_singleton (f := (Event.response · false)), ← List.map_append]
    exact .pending rfl (held.snoc j)

/-- With the last fragment, one listener hears of it and the other of the whole. -/
lemma Matched.last {r joined : Response} (h : Matched o fragments whole parts)
    (open_ : o.isTerminal = false)
    (j : Accumulator.join o.accumulator.held r = .ok joined) :
    Matched (o.gaining r true none) (fragments ++ [r]) (whole ++ [.response joined true])
      (parts ++ [.response r true]) := by
  obtain ⟨held, rfl, rfl⟩ := h.pending open_
  refine ⟨⟨h.tidy.merged, rfl, by simp [gaining], by simp [gaining]⟩, ?_, ?_⟩
  · simp [gaining, h.elements]
  · exact .complete rfl rfl (held.snoc j)

/-- One step on both sides: it is answered alike and leaves counterparts, whose listeners have heard
of the same fragments. -/
structure Alike {α : Type} (whole parts : List Event) (a b : Step α) : Prop where
  operation : b.operation = a.operation.inParts
  result : b.result = a.result
  heard : ∃ fragments,
    Matched a.operation fragments (whole ++ a.events) (parts ++ b.events)

/-- A call that does nothing is one step on both sides. -/
lemma Matched.refl {α : Type} (h : Matched o fragments whole parts) (result : α) :
    Alike whole parts { operation := o, result } { operation := o.inParts, result } :=
  ⟨rfl, rfl, fragments, by simpa using h⟩

/-- A frame that is waited for is a step on both sides. -/
lemma Matched.onFrame (h : Matched o fragments whole parts) (waits : o.state.isWaiting = true)
    (frame : Frame) : Alike whole parts (o.onFrame frame) (o.inParts.onFrame frame) := by
  have open_ : o.isTerminal = false := State.isTerminal_of_isWaiting waits
  have counted : Matched o.counted fragments whole parts :=
    h.still open_ (by simp [open_]) rfl rfl rfl
  have parted := h.tidy.onFrame_parted waits frame
  generalize o.onFrame frame = a, o.inParts.onFrame frame = b at parted
  cases parted with
  | unread _ => exact counted.refl _
  | refused _ => exact ⟨rfl, rfl, fragments, counted.fail (by simp [open_]) _⟩
  | fragment read j => exact ⟨rfl, rfl, _, by simpa using h.fragment open_ read j⟩
  | last _ j => exact ⟨rfl, rfl, _, h.last open_ j⟩

/-- Every call is a step on both sides. -/
lemma Matched.perform (h : Matched o fragments whole parts) (call : Call) :
    Alike whole parts (o.perform call) (o.inParts.perform call) := by
  cases open_ : o.isTerminal with
  | true =>
    rw [perform_of_isTerminal open_, perform_of_isTerminal (o := o.inParts) open_]
    exact h.refl _
  | false =>
    cases call with
    | beginSend =>
      by_cases fresh : o.state = .encoded
      · have sent : Matched { o with state := .sent } fragments whole parts :=
          h.still open_ rfl rfl rfl rfl
        have fresh' : o.inParts.state = .encoded := fresh
        simp only [Operation.perform, beginSend, if_pos fresh, if_pos fresh']
        exact sent.refl _
      · have fresh' : o.inParts.state ≠ .encoded := fresh
        simp only [Operation.perform, beginSend, if_neg fresh, if_neg fresh', inParts_isTerminal,
          open_, Bool.false_eq_true, if_false]
        exact h.refl _
    | onFrame frame =>
      cases waits : o.state.isWaiting with
      | true =>
        obtain ⟨operation, result, heard⟩ := h.onFrame waits frame
        exact ⟨operation, congrArg Reply.taken result, heard⟩
      | false =>
        simp only [Operation.perform, Operation.onFrame, inParts_state, inParts_isTerminal, open_,
          waits, Bool.not_false, Bool.false_eq_true, if_false, if_true]
        exact h.refl _
    | fail fault =>
      have hears := h.tidy.attended.hears open_
      simp only [Operation.perform, fail_of_open open_ hears,
        fail_of_open (o := o.inParts) open_ hears]
      exact ⟨rfl, rfl, fragments, h.fail open_ fault⟩

/-- Any calls are a step on both sides. -/
lemma Matched.run (h : Matched o fragments whole parts) (calls : List Call) :
    Alike whole parts (o.run calls) (o.inParts.run calls) := by
  induction calls generalizing o fragments whole parts with
  | nil => exact h.refl _
  | cons call calls ih =>
    obtain ⟨operation, _, fragments', next⟩ := h.perform call
    obtain ⟨operation', _, fragments'', rest⟩ := ih next
    simp only [Operation.run, operation]
    exact ⟨operation', rfl, fragments'', by simpa using rest⟩

end Matched

/-! ### The same request -/

/-- A fragment does not change the request. -/
@[simp] lemma onFragment_request (o : Operation) (r : Response) (done : Bool) :
    (o.onFragment r done).operation.request = o.request := by
  unfold onFragment
  generalize o.accumulator.push r done = pushed
  obtain ⟨accumulator, _ | ready⟩ := pushed <;> cases done <;> rfl

/-- A failure does not change the request. -/
@[simp] lemma fail_request (o : Operation) (fault : Fault) :
    (o.fail fault).operation.request = o.request := by
  unfold fail
  split <;> rfl

/-- A call leaves the request as it is. -/
@[simp] lemma perform_request (o : Operation) (call : Call) :
    (o.perform call).operation.request = o.request := by
  cases call with
  | beginSend =>
    simp only [perform, beginSend]
    split
    · rfl
    · split <;> rfl
  | fail fault => exact o.fail_request fault
  | onFrame frame =>
    cases waits : o.state.isWaiting with
    | true =>
      simp only [perform, onFrame_of_waiting waits]
      split
      · rfl
      · exact o.counted.fail_request _
      · exact o.counted.onFragment_request _ _
    | false =>
      simp only [perform, onFrame, waits]
      split <;> rfl

/-- Calls do not change the request. -/
@[simp] lemma run_request (o : Operation) (calls : List Call) :
    (o.run calls).operation.request = o.request := by
  induction calls generalizing o with
  | nil => rfl
  | cons call calls ih => exact (ih _).trans (o.perform_request call)

/-! ### Agreement -/

/-- What the listener hears of a frame where the answer is delivered in parts, by what comes of the
frame. -/
def PassedOn (kind : ResponseKind) (frame : Frame) (step : Step (Except Fault Progress)) : Prop :=
  match step.result with
  | .ok .more => ∃ r, kind.read frame = .ok (.fragment r false) ∧ step.events = [.response r false]
  | .ok .done => ∃ r, kind.read frame = .ok (.fragment r true) ∧ step.events = [.response r true]
  | .ok (.failed error) => step.events = [.fault (.server error)]
  | .error _ => step.events = []

/-- The counterpart passes on every frame as it reads. -/
lemma Tidy.passedOn {o : Operation} (h : o.Tidy) (frame : Frame) :
    PassedOn o.kind frame (o.inParts.onFrame frame) := by
  cases waits : o.state.isWaiting with
  | true =>
    have parted := h.onFrame_parted waits frame
    generalize o.onFrame frame = a, o.inParts.onFrame frame = b at parted
    cases parted with
    | unread _ | refused _ => rfl
    | fragment read _ | last read _ => exact ⟨_, read, rfl⟩
  | false =>
    simp only [onFrame, inParts_state, waits]
    split <;> rfl

/-- The same calls on two operations for one request, of which one delivers the answer whole and the
other in parts, agree: each further call is answered alike, and the listeners hear of the same. -/
structure Agreement (kind : ResponseKind) (whole parts : Step Unit) : Prop where
  state : whole.operation.state = parts.operation.state
  frames : whole.operation.frames = parts.operation.frames
  replies : ∀ call,
    (whole.operation.perform call).result = (parts.operation.perform call).result
  passed : ∀ frame, PassedOn kind frame (parts.operation.onFrame frame)
  /-- The listener of the whole hears all fragments joined from the left, and no element is lost. -/
  complete :
    whole.operation.state = .done →
    ∃ (before : List Response) (last joined : Response),
      parts.events = before.map (.response · false) ++ [.response last true] ∧
      whole.events = [.response joined true] ∧
      (∃ first rest,
        before ++ [last] = first :: rest ∧ rest.foldlM Response.merge first = .ok joined) ∧
      Response.Whole (before ++ [last]) joined ∧
      joined.length = whole.operation.accumulator.elements ∧
      joined.length = parts.operation.accumulator.elements
  failed :
    whole.operation.state = .failed →
    ∃ (fragments : List Response) (fault : Fault),
      parts.events = fragments.map (.response · false) ++ [.fault fault] ∧
      whole.events = [.fault fault]
  pending :
    whole.operation.isTerminal = false →
    ∃ fragments : List Response,
      parts.events = fragments.map (.response · false) ∧ whole.events = []

/-- Whatever is called on both, and in whatever order, an operation that delivers its answer whole
and one that delivers it in parts agree. -/
theorem deliveries_agree (request : Request) (calls : List Call) :
    Agreement request.responseKind
      ((ofRequest request .merged).run calls) ((ofRequest request .perFragment).run calls) := by
  have kind : ((ofRequest request .merged).run calls).operation.kind = request.responseKind :=
    congrArg EncodedRequest.kind (run_request _ calls)
  have alike := (matched_ofRequest request).run calls
  change Alike [] [] _ ((ofRequest request .perFragment).run calls) at alike
  obtain ⟨same, _, fragments, h⟩ := alike
  rw [List.nil_append, List.nil_append] at h
  refine ⟨?_, ?_, ?_, ?_, ?_, ?_, ?_⟩
  · rw [same, inParts_state]
  · rw [same]
    rfl
  · intro call
    rw [same]
    exact (h.perform call).result.symm
  · intro frame
    rw [same, ← kind]
    exact h.tidy.passedOn frame
  · intro done
    obtain ⟨before, last, joined, rfl, whole, parts, held⟩ := h.complete done
    obtain ⟨first, rest, e⟩ := List.exists_cons_of_ne_nil (l := before ++ [last]) (by simp)
    have fold : rest.foldlM Response.merge first = .ok joined := by
      rw [e] at held
      obtain ⟨_, ⟨⟩, fold⟩ := held
      exact fold
    have makes : Response.Whole (before ++ [last]) joined := held.whole
    have length : joined.length = _ := makes.length.trans h.elements.symm
    exact ⟨before, last, joined, parts, whole, ⟨first, rest, e, fold⟩, makes, length, same ▸ length⟩
  · intro failed
    obtain ⟨fault, whole, parts⟩ := h.failed failed
    exact ⟨fragments, fault, parts, whole⟩
  · intro open_
    obtain ⟨_, whole, parts⟩ := h.pending open_
    exact ⟨fragments, parts, whole⟩

end Operation

end StoreClient
