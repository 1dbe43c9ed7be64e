import Mathlib
import StoreClient.Frame.Decoder
import StoreClient.Proofs.Frame

/-!
# What a decoder holds

A decoder conserves bytes: what it holds of the frame under way, followed by what it is fed, is the
bytes of the frames that it gives, followed by what it holds then (`feedFrom_holds`). A step of the
argument is one byte (`push_holds`), and `State.Valid` is what every byte keeps.

Feeding one chunk after the other is feeding them at once (`feed_append`), up to a fault.
-/

namespace StoreClient

/-- A fault of carrying bytes to and fro, which breaks the connection. -/
def Fault.IsTransfer (f : Fault) : Prop := f.isFatal = true ∧ f ≠ .unexpectedResponse

/-- A fault of the transfer is no error of the server. -/
lemma Fault.IsTransfer.serverError? {f : Fault} (h : f.IsTransfer) : f.serverError? = none := by
  cases f with
  | server _ => cases h.1
  | _ => rfl

namespace Decoder

/-- The bytes of the frame under way. -/
def State.held : State → Bytes
  | .length got => got
  | .body declared _ got => Bytes.ofNatBigEndian declared ++ got.reverse

/-- A length under way is incomplete; a body under way is incomplete too, and its length has passed
the checks. -/
def State.Valid (limits : Limits) : State → Prop
  | .length got => got.length < Frame.prefixSize
  | .body declared offset got =>
    limits.check declared = .ok () ∧ declared ≤ Frame.maxDeclared ∧
      offset = got.length ∧ offset < declared

/-- A decoder that holds nothing is in order. -/
lemma State.valid_nil (limits : Limits) : (State.length []).Valid limits := by
  simp [Valid, Frame.prefixSize]

/-- A decoder is idle just where it holds no byte of a length. -/
lemma isIdle_iff {d : Decoder} : d.isIdle = true ↔ d.state = .length [] := by
  simp [isIdle]

/-- A decoder is idle behind a reset. -/
@[simp] lemma isIdle_reset (d : Decoder) : d.reset.isIdle = true := by simp [reset, isIdle]

/-- A length that has passed the checks is not zero. -/
lemma Limits.pos_of_check {limits : Limits} {declared : Nat}
    (ok : limits.check declared = .ok ()) : 0 < declared := by
  unfold check at ok
  split at ok
  · cases ok
  · omega

/-- A length that has passed the checks is not above the maximum. -/
lemma Limits.le_of_check {limits : Limits} {declared : Nat}
    (ok : limits.check declared = .ok ()) : declared ≤ limits.maxLength := by
  unfold check at ok
  split at ok
  · cases ok
  · split at ok
    · cases ok
    · omega

/-! ### One byte -/

/-- A byte that completes no frame is held with the others. -/
lemma push_none {limits : Limits} {s s' : State} {b : UInt8} (v : s.Valid limits)
    (e : push limits s b = .ok (s', none)) : s'.Valid limits ∧ s'.held = s.held ++ [b] := by
  cases s with
  | length got =>
    simp only [push] at e
    split at e
    · rename_i short
      simp only [Except.ok.injEq, Prod.mk.injEq, and_true] at e
      subst e
      exact ⟨short, rfl⟩
    · rename_i long
      have len : (got ++ [b]).length = 4 := by
        simp only [State.Valid, Frame.prefixSize, List.length_append, List.length_singleton] at *
        omega
      cases ok : limits.check (Bytes.toNatBigEndian (got ++ [b])) with
      | error fault => simp [ok, bind, Except.bind] at e
      | ok u =>
        simp only [ok, bind, Except.bind, pure, Except.pure, Except.ok.injEq, Prod.mk.injEq,
          and_true] at e
        subst e
        have below := Bytes.toNatBigEndian_lt len
        refine ⟨⟨ok, ?_, rfl, Limits.pos_of_check ok⟩, ?_⟩
        · unfold Frame.maxDeclared
          omega
        · simp [State.held, Bytes.ofNatBigEndian_toNatBigEndian len]
  | body declared offset got =>
    obtain ⟨ok, fits, len, _⟩ := v
    simp only [push] at e
    split at e
    · rename_i more
      simp only [Except.ok.injEq, Prod.mk.injEq, and_true] at e
      subst e
      exact ⟨⟨ok, fits, by simp [len], more⟩, by simp [State.held]⟩
    · cases rev : (b :: got).reverse with
      | nil => simp at rev
      | cons tag payload => simp [rev, frameOfBody] at e

/-- A byte that completes a frame completes its bytes, and nothing is held then. -/
lemma push_some {limits : Limits} {s s' : State} {b : UInt8} {frame : Frame}
    (v : s.Valid limits) (e : push limits s b = .ok (s', some frame)) :
    s' = .length [] ∧ frame.Fits ∧ frame.bytes = s.held ++ [b] := by
  cases s with
  | length got =>
    simp only [push] at e
    split at e
    · simp at e
    · cases ok : limits.check (Bytes.toNatBigEndian (got ++ [b])) <;>
        simp [ok, bind, Except.bind, pure, Except.pure] at e
  | body declared offset got =>
    obtain ⟨_, fits, len, more⟩ := v
    simp only [push] at e
    split at e
    · simp at e
    · rename_i last
      cases rev : (b :: got).reverse with
      | nil => simp at rev
      | cons tag payload =>
        simp only [rev, frameOfBody, Except.ok.injEq, Prod.mk.injEq, Option.some.injEq] at e
        obtain ⟨rfl, rfl⟩ := e
        have body : tag :: payload = got.reverse ++ [b] := by rw [← rev, List.reverse_cons]
        have sizes : 1 + payload.length = declared := by
          have := congrArg List.length body
          simp only [List.length_cons, List.length_append, List.length_reverse,
            List.length_nil] at this
          omega
        refine ⟨rfl, ?_, ?_⟩
        · show 1 + payload.length ≤ Frame.maxDeclared
          omega
        · simp [Frame.bytes, Frame.declaredLength, State.held, sizes, body]

/-- A byte that is refused has completed a length that does not pass the checks. -/
lemma push_error {limits : Limits} {s : State} {b : UInt8} {fault : Fault}
    (e : push limits s b = .error fault) :
    ∃ got, s = .length got ∧ Frame.prefixSize ≤ (got ++ [b]).length ∧
      limits.check (Bytes.toNatBigEndian (got ++ [b])) = .error fault := by
  cases s with
  | length got =>
    simp only [push] at e
    split at e
    · cases e
    · rename_i long
      refine ⟨got, rfl, Nat.le_of_not_lt long, ?_⟩
      cases c : limits.check (Bytes.toNatBigEndian (got ++ [b])) with
      | error fault =>
        rw [c] at e
        cases e
        rfl
      | ok u =>
        rw [c] at e
        cases e
  | body declared offset got =>
    simp only [push] at e
    split at e <;> cases e

/-! ### Chunks -/

/-- The frames so far are only kept. -/
lemma feedFrom_frames (limits : Limits) (s : State) (input : Bytes) (frames : List Frame) :
    feedFrom limits s input frames =
      { feedFrom limits s input [] with
        frames := frames.reverse ++ (feedFrom limits s input []).frames } := by
  induction input generalizing s frames with
  | nil => simp [feedFrom]
  | cons b rest ih =>
    simp only [feedFrom]
    cases push limits s b with
    | error fault => simp
    | ok next =>
      obtain ⟨s', frame⟩ := next
      cases frame with
      | none => exact ih s' frames
      | some frame =>
        simp only
        rw [ih s' (frame :: frames), ih s' [frame]]
        simp

/-- Feeding does not change the limits of a decoder. -/
lemma feedFrom_limits (limits : Limits) (s : State) (input : Bytes) (frames : List Frame) :
    (feedFrom limits s input frames).decoder.limits = limits := by
  induction input generalizing s frames with
  | nil => rfl
  | cons b rest ih =>
    simp only [feedFrom]
    cases push limits s b with
    | error fault => rfl
    | ok next =>
      obtain ⟨s', frame⟩ := next
      cases frame with
      | none => exact ih s' frames
      | some frame => exact ih s' (frame :: frames)

/-- A decoder conserves bytes, except that it drops what comes after a fault. -/
lemma feedFrom_holds {limits : Limits} {s : State} (v : s.Valid limits) (input : Bytes) :
    let fed := feedFrom limits s input []
    fed.decoder.state.Valid limits ∧ (∀ f ∈ fed.frames, f.Fits) ∧
      ∃ rest, s.held ++ input = fed.frames.flatMap Frame.bytes ++ rest ∧
        (fed.fault = none → rest = fed.decoder.state.held) := by
  -- What is held moves from the state into a frame, one byte of the input after the other.
  induction input generalizing s with
  | nil => exact ⟨v, by simp [feedFrom], s.held, by simp [feedFrom], fun _ => rfl⟩
  | cons b input ih =>
    simp only [feedFrom]
    cases e : push limits s b with
    | error fault =>
      exact ⟨State.valid_nil limits, by simp, s.held ++ b :: input, rfl, nofun⟩
    | ok next =>
      obtain ⟨s', frame⟩ := next
      cases frame with
      | none =>
        obtain ⟨v', held⟩ := push_none v e
        obtain ⟨v'', fits, rest, eq, clean⟩ := ih v'
        refine ⟨v'', fits, rest, ?_, clean⟩
        rw [← eq, held]
        simp
      | some frame =>
        obtain ⟨rfl, fit, bytes⟩ := push_some v e
        obtain ⟨v'', fits, rest, eq, clean⟩ := ih (State.valid_nil limits)
        simp only
        -- The induction hypothesis starts without frames, so the first one is split off.
        rw [feedFrom_frames]
        refine ⟨v'', ?_, rest, ?_, clean⟩
        · simpa using ⟨fit, fits⟩
        · simp only [State.held, List.nil_append] at eq
          simp [bytes, ← eq]

/-- A chunk behind another is fed to what the first leaves, unless that ended in a fault. -/
lemma feedFrom_append {limits : Limits} {s : State} {a : Bytes} {frames : List Frame}
    (clean : (feedFrom limits s a frames).fault = none) (b : Bytes) :
    feedFrom limits s (a ++ b) frames =
      feedFrom limits (feedFrom limits s a frames).decoder.state b
        (feedFrom limits s a frames).frames.reverse := by
  induction a generalizing s frames with
  | nil => simp [feedFrom]
  | cons x a ih =>
    simp only [List.cons_append, feedFrom] at clean ⊢
    cases e : push limits s x with
    | error fault => simp [e] at clean
    | ok next =>
      obtain ⟨s', frame⟩ := next
      rw [e] at clean
      cases frame with
      | none => exact ih clean
      | some frame => exact ih clean

/-- Feeding one chunk after the other gives what feeding them at once gives. -/
lemma feed_append {d d' : Decoder} {a : Bytes} {frames : List Frame}
    (e : d.feed a = ⟨d', frames, none⟩) (b : Bytes) :
    d.feed (a ++ b) = ⟨(d'.feed b).decoder, frames ++ (d'.feed b).frames, (d'.feed b).fault⟩ := by
  have kept : d'.limits = d.limits := by
    have h := feedFrom_limits d.limits d.state a []
    unfold feed at e
    rwa [e] at h
  unfold feed at e ⊢
  rw [feedFrom_append (by rw [e]), e, feedFrom_frames, kept]
  simp

/-- Nothing is taken behind a fault. -/
lemma feedFrom_append_of_fault {limits : Limits} {s : State} {a : Bytes} {frames : List Frame}
    {fault : Fault} (e : (feedFrom limits s a frames).fault = some fault) (b : Bytes) :
    feedFrom limits s (a ++ b) frames = feedFrom limits s a frames := by
  induction a generalizing s frames with
  | nil => cases e
  | cons x a ih =>
    simp only [List.cons_append, feedFrom] at e ⊢
    cases p : push limits s x with
    | error cause => rfl
    | ok next =>
      obtain ⟨s', frame⟩ := next
      rw [p] at e
      cases frame with
      | none => exact ih e
      | some frame => exact ih e

/-- A fault leaves nothing of the frame under way. -/
lemma state_feedFrom_of_fault {limits : Limits} {s : State} {input : Bytes} {frames : List Frame}
    {fault : Fault} (e : (feedFrom limits s input frames).fault = some fault) :
    (feedFrom limits s input frames).decoder.state = .length [] := by
  induction input generalizing s frames with
  | nil => cases e
  | cons b input ih =>
    simp only [feedFrom] at e ⊢
    cases p : push limits s b with
    | error cause => rfl
    | ok next =>
      obtain ⟨s', frame⟩ := next
      rw [p] at e
      cases frame with
      | none => exact ih e
      | some frame => exact ih e

/-- Nothing of a chunk is taken behind a fault. -/
lemma feed_append_of_fault {d : Decoder} {a : Bytes} {fault : Fault} (e : (d.feed a).fault = some fault)
    (b : Bytes) : d.feed (a ++ b) = d.feed a :=
  feedFrom_append_of_fault e b

/-- Feeding nothing changes nothing. -/
lemma feed_nil (d : Decoder) : d.feed [] = ⟨d, [], none⟩ := rfl

/-- An idle decoder that is fed nothing stays as it is. -/
lemma feed_reset_nil {d : Decoder} (idle : d.isIdle = true) : d.reset.feed [] = ⟨d, [], none⟩ := by
  simp [feed, feedFrom, reset, ← isIdle_iff.1 idle]

/-- What an idle decoder is fed begins with the bytes of the frames that it gives, and is no more
than those where it ends idle and without fault. -/
lemma feed_sound {d : Decoder} (idle : d.isIdle = true) (input : Bytes) :
    (∀ f ∈ (d.feed input).frames, f.Fits) ∧
      ∃ rest, input = (d.feed input).frames.flatMap Frame.bytes ++ rest ∧
        ((d.feed input).fault = none → (d.feed input).decoder.isIdle = true → rest = []) := by
  have nothing : d.state = .length [] := isIdle_iff.1 idle
  obtain ⟨_, fits, rest, eq, clean⟩ := feedFrom_holds (State.valid_nil d.limits) input
  unfold feed
  rw [nothing]
  refine ⟨fits, rest, by simpa [State.held] using eq, ?_⟩
  intro noFault idle'
  rw [clean noFault, isIdle_iff.1 idle']
  rfl

/-! ### Where a fault is found -/

/-- How many bytes of a chunk it takes to meet a fault: the fewest that end in one when fed. -/
def refusedAt? (d : Decoder) (chunk : Bytes) : Option Nat :=
  (List.range (chunk.length + 1)).find? fun n => (d.feed (chunk.take n)).fault.isSome

section refusedAt?

variable {d : Decoder} {chunk : Bytes}

/-- What begins a chunk without fault is without fault. -/
lemma fault_take_eq_none (clean : (d.feed chunk).fault = none) (n : Nat) :
    (d.feed (chunk.take n)).fault = none := by
  cases e : (d.feed (chunk.take n)).fault with
  | none => rfl
  | some fault =>
    have whole := feed_append_of_fault e (chunk.drop n)
    rw [List.take_append_drop] at whole
    rw [whole, e] at clean
    cases clean

/-- A fault is found with the last of the fewest bytes that end in one. -/
lemma refusedAt?_eq_some {n : Nat} :
    d.refusedAt? chunk = some n ↔
      n ≤ chunk.length ∧ (d.feed (chunk.take n)).fault.isSome ∧
        ∀ m < n, (d.feed (chunk.take m)).fault = none := by
  unfold refusedAt?
  rw [List.find?_range_eq_some]
  simp only [List.mem_range, Nat.lt_succ_iff, Bool.not_eq_eq_eq_not, Bool.not_true,
    Option.isSome_eq_false_iff, Option.isNone_iff_eq_none]
  tauto

/-- A fault has a place. -/
lemma isSome_refusedAt? (d : Decoder) (chunk : Bytes) :
    (d.refusedAt? chunk).isSome = (d.feed chunk).fault.isSome := by
  cases e : (d.feed chunk).fault with
  | none =>
    cases at_ : d.refusedAt? chunk with
    | none => rfl
    | some n =>
      have refused := (refusedAt?_eq_some.1 at_).2.1
      rw [fault_take_eq_none e n] at refused
      cases refused
  | some fault =>
    unfold refusedAt?
    rw [Option.isSome_some, List.find?_isSome]
    exact ⟨chunk.length, by simp, by simp [e]⟩

/-- A fault in a chunk is found at the same place whatever comes behind. -/
lemma refusedAt?_append_of_fault {a : Bytes} {fault : Fault} (e : (d.feed a).fault = some fault)
    (b : Bytes) : d.refusedAt? (a ++ b) = d.refusedAt? a := by
  have found : (d.refusedAt? a).isSome := by rw [isSome_refusedAt?, e, Option.isSome_some]
  obtain ⟨n, here⟩ := Option.isSome_iff_exists.1 found
  obtain ⟨inside, refused, first⟩ := refusedAt?_eq_some.1 here
  rw [here, refusedAt?_eq_some]
  refine ⟨by simp; omega, ?_, ?_⟩
  · rwa [List.take_append_of_le_length inside]
  · intro m lt
    rw [List.take_append_of_le_length (by omega)]
    exact first m lt

/-- Behind a chunk without fault the place of a fault is counted on. -/
lemma refusedAt?_append {a : Bytes} (clean : (d.feed a).fault = none) (b : Bytes) :
    d.refusedAt? (a ++ b) = ((d.feed a).decoder.refusedAt? b).map (a.length + ·) := by
  have later (m : Nat) :
      (d.feed (a ++ b.take m)).fault = ((d.feed a).decoder.feed (b.take m)).fault := by
    have fed : d.feed a = ⟨(d.feed a).decoder, (d.feed a).frames, none⟩ := by rw [← clean]
    rw [feed_append fed]
  have earlier {m : Nat} (le : m ≤ a.length) : (d.feed ((a ++ b).take m)).fault = none := by
    rw [List.take_append_of_le_length le]
    exact fault_take_eq_none clean m
  cases here : (d.feed a).decoder.refusedAt? b with
  | none =>
    have nothing : ((d.feed a).decoder.feed b).fault = none := by
      have := isSome_refusedAt? (d.feed a).decoder b
      rw [here] at this
      simpa using this.symm
    have whole := isSome_refusedAt? d (a ++ b)
    have last := later b.length
    rw [List.take_length] at last
    rw [last, nothing] at whole
    simpa using whole
  | some n =>
    obtain ⟨inside, refused, first⟩ := refusedAt?_eq_some.1 here
    rw [Option.map_some, refusedAt?_eq_some]
    refine ⟨by simp; omega, ?_, ?_⟩
    · rw [List.take_append, List.take_of_length_le (by omega), Nat.add_sub_cancel_left, later]
      exact refused
    · intro m lt
      by_cases le : m ≤ a.length
      · exact earlier le
      · rw [List.take_append, List.take_of_length_le (by omega), later]
        exact first _ (by omega)

/-- A fault is found at the byte behind those that can be fed without one. -/
lemma refusedAt?_of_last {front rest : Bytes} {last : UInt8}
    (clean : (d.feed front).fault = none) {fault : Fault}
    (bad : (d.feed (front ++ [last])).fault = some fault) :
    d.refusedAt? (front ++ last :: rest) = some (front.length + 1) := by
  have here : d.refusedAt? (front ++ [last]) = some (front.length + 1) := by
    rw [refusedAt?_eq_some]
    refine ⟨by simp, ?_, fun m lt => ?_⟩
    · rw [List.take_of_length_le (by simp), bad, Option.isSome_some]
    · rw [List.take_append_of_le_length (Nat.le_of_lt_succ lt)]
      exact fault_take_eq_none clean m
  have split : front ++ last :: rest = (front ++ [last]) ++ rest := by simp
  rw [split, refusedAt?_append_of_fault bad, here]

/-- A byte with which a fault is found completes a length that does not pass the checks. -/
lemma feed_singleton_of_fault {b : UInt8} {fault : Fault} (v : d.state.Valid d.limits)
    (bad : (d.feed [b]).fault = some fault) :
    (d.feed [b]).frames = [] ∧ (d.state.held ++ [b]).length = Frame.prefixSize ∧
      d.limits.check (Bytes.toNatBigEndian (d.state.held ++ [b])) = .error fault := by
  simp only [feed, feedFrom] at bad ⊢
  cases pushed : push d.limits d.state b with
  | error cause =>
    obtain ⟨got, state, long, check⟩ := push_error pushed
    rw [pushed] at bad
    cases bad
    rw [state] at v ⊢
    refine ⟨rfl, Nat.le_antisymm ?_ long, check⟩
    rw [List.length_append, List.length_singleton]
    exact v
  | ok next =>
    obtain ⟨s', frame⟩ := next
    rw [pushed] at bad
    cases frame <;> cases bad

/-- Where a fault is found the last byte of a length has been fed, which does not pass the checks and
stands behind the frames. -/
lemma exists_size_of_refusedAt? {n : Nat} {fault : Fault} (v : d.state.Valid d.limits)
    (here : d.refusedAt? chunk = some n) (bad : (d.feed chunk).fault = some fault) :
    ∃ size : Bytes, size.length = Frame.prefixSize ∧
      d.limits.check (Bytes.toNatBigEndian size) = .error fault ∧
      d.state.held ++ chunk.take n = (d.feed chunk).frames.flatMap Frame.bytes ++ size := by
  obtain ⟨inside, refused, first⟩ := refusedAt?_eq_some.1 here
  cases n with
  | zero => cases refused
  | succ m =>
    -- The bytes before the last one are fed without fault, and what they leave refuses it.
    have clean := first m (Nat.lt_succ_self m)
    have split : chunk.take (m + 1) = chunk.take m ++ [chunk[m]] :=
      List.take_succ_eq_append_getElem inside
    have whole : d.feed chunk = d.feed (chunk.take (m + 1)) := by
      obtain ⟨fault', bad'⟩ := Option.isSome_iff_exists.1 refused
      have same := feed_append_of_fault bad' (chunk.drop (m + 1))
      rwa [List.take_append_drop] at same
    have fed : d.feed (chunk.take m) =
        ⟨(d.feed (chunk.take m)).decoder, (d.feed (chunk.take m)).frames, none⟩ := by rw [← clean]
    have kept : (d.feed (chunk.take m)).decoder.limits = d.limits :=
      feedFrom_limits d.limits d.state _ []
    obtain ⟨valid, _, held, bytes, same⟩ := feedFrom_holds v (chunk.take m)
    cases same clean
    rw [whole, split, feed_append fed] at bad ⊢
    obtain ⟨nothing, four, check⟩ := feed_singleton_of_fault (by rw [kept]; exact valid) bad
    rw [kept] at check
    refine ⟨_, four, check, ?_⟩
    rw [← List.append_assoc, bytes, nothing, List.append_nil, List.append_assoc]
    rfl

end refusedAt?

/-- A fault of feeding is one of a length that does not pass the checks. -/
lemma feedFrom_fault {limits : Limits} {s : State} {input : Bytes} {frames : List Frame}
    {fault : Fault} (e : (feedFrom limits s input frames).fault = some fault) :
    ∃ declared, limits.check declared = .error fault := by
  induction input generalizing s frames with
  | nil => cases e
  | cons b input ih =>
    simp only [feedFrom] at e
    cases p : push limits s b with
    | error cause =>
      rw [p] at e
      cases e
      obtain ⟨_, _, _, bad⟩ := push_error p
      exact ⟨_, bad⟩
    | ok next =>
      obtain ⟨s', frame⟩ := next
      rw [p] at e
      cases frame with
      | none => exact ih e
      | some frame => exact ih e

/-- What does not pass the checks is a fault of the transfer. -/
lemma Limits.isTransfer_of_check {limits : Limits} {declared : Nat} {fault : Fault}
    (e : limits.check declared = .error fault) : fault.IsTransfer := by
  unfold check at e
  split at e
  · cases e
    exact ⟨rfl, nofun⟩
  · split at e
    · cases e
      exact ⟨rfl, nofun⟩
    · split at e
      · cases e
        exact ⟨rfl, nofun⟩
      · cases e

/-- What does not pass the checks is no error of the server. -/
lemma Limits.serverError?_of_check {limits : Limits} {declared : Nat} {fault : Fault}
    (e : limits.check declared = .error fault) : fault.serverError? = none :=
  (isTransfer_of_check e).serverError?

end Decoder

end StoreClient
