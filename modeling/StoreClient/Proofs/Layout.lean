import Mathlib
import StoreClient.Proofs.Split

/-!
# A decoder in memory

In memory a decoder is a flag, two numbers and two buffers (`Layout`). One number counts the bytes
of the length as long as this is incomplete, and the bytes of the body from then on. A chunk is
copied piece by piece: what is there of the length, then what is there of the body. Every difference
and every slice is checked here, and gives nothing where it would be negative or reach beyond its
buffer.

A layout holds the state of a decoder (`Layout.Holds`), which keeps the numbers within their bounds
(`Layout.Holds.sound`). One round of copying, up to the first frame, never leaves the buffers and
does what feeding byte by byte does (`Layout.Holds.round`); so does a whole chunk, by induction on
the rounds (`Layout.Holds.feedInto`).
-/

namespace StoreClient

namespace Decoder

/-! ### Layouts -/

/-- A decoder as it lies in memory. -/
structure Layout where
  /-- Whether the length of the frame under way is complete. -/
  lengthKnown : Bool := false
  declared : Nat := 0
  /-- How many bytes there are of the length, or of the body once the length is known. -/
  offset : Nat := 0
  /-- Room for the length. -/
  lengthBytes : Bytes := [0, 0, 0, 0]
  body : Bytes := []
  deriving DecidableEq, Repr

/-- A difference that is not negative. -/
def minus? (a b : Nat) : Option Nat := if b ≤ a then some (a - b) else none

/-- The first bytes of an input and what is behind them. -/
def cut? (input : Bytes) (n : Nat) : Option (Bytes × Bytes) :=
  if n ≤ input.length then some (input.take n, input.drop n) else none

/-- What an input has of the bytes from an offset to a size, and what is behind them. -/
def pieceOf? (size offset : Nat) (input : Bytes) : Option (Bytes × Bytes) := do
  let wanted ← minus? size offset
  cut? input (min wanted input.length)

/-- A buffer with some of its bytes replaced, from a position on. -/
def overwrite? (buffer : Bytes) (position : Nat) (bytes : Bytes) : Option Bytes :=
  if position + bytes.length ≤ buffer.length then
    some (buffer.take position ++ bytes ++ buffer.drop (position + bytes.length))
  else none

/-- How a round of copying ends, and what it leaves of the chunk. -/
inductive Round where
  /-- The chunk is used up. -/
  | waiting (layout : Layout) (event : Event)
  /-- A declared length does not pass the checks. What is behind it is not looked at. -/
  | refused (fault : Fault) (rest : Bytes)
  /-- A frame is complete. -/
  | complete (frame : Frame) (rest : Bytes)

/-- A piece lies inside the input. -/
lemma pieceOf?_eq_some_iff {size offset : Nat} {input taken rest : Bytes} :
    pieceOf? size offset input = some (taken, rest) ↔
      offset ≤ size ∧ taken = input.take (size - offset) ∧ rest = input.drop (size - offset) := by
  have inside : min (size - offset) input.length ≤ input.length := Nat.min_le_right _ _
  have front : input.take (min (size - offset) input.length) = input.take (size - offset) := by
    rw [List.take_eq_take_iff]
    omega
  have back : input.drop (min (size - offset) input.length) = input.drop (size - offset) := by
    rw [List.drop_eq_drop_iff]
    omega
  unfold pieceOf? minus? cut?
  split
  · rename_i le
    simp only [Option.bind_eq_bind, Option.bind_some, if_pos inside, front, back,
      Option.some.injEq, Prod.mk.injEq, le, true_and]
    exact ⟨fun ⟨a, b⟩ => ⟨a.symm, b.symm⟩, fun ⟨a, b⟩ => ⟨a.symm, b.symm⟩⟩
  · rename_i gt
    simp [gt]

namespace Layout

/-- Copies what there is of the length. -/
def copyLength (l : Layout) (input : Bytes) : Option (Layout × Bytes) := do
  let (taken, rest) ← pieceOf? Frame.prefixSize l.offset input
  let lengthBytes ← overwrite? l.lengthBytes l.offset taken
  return ({ l with lengthBytes, offset := l.offset + taken.length }, rest)

/-- Copies what there is of the body. -/
def copyBody (l : Layout) (input : Bytes) : Option (Layout × Bytes) := do
  let (taken, rest) ← pieceOf? l.declared l.offset input
  return ({ l with body := l.body ++ taken, offset := l.offset + taken.length }, rest)

/-- Judges the length and makes room for a body. -/
def beginBody (limits : Limits) (l : Layout) : Except Fault Layout := do
  let declared := Bytes.toNatBigEndian l.lengthBytes
  limits.check declared
  return { l with lengthKnown := true, declared, offset := 0, body := [] }

/-- The rest of a round, once the length is known. -/
def bodyRound (l : Layout) (input : Bytes) : Option Round := do
  let (l, rest) ← l.copyBody input
  if l.offset < l.declared then
    return .waiting l (.needBody l.offset l.declared)
  else
    let frame ← frameOfBody l.body
    return .complete frame rest

/-- Copies up to the end of the chunk or of a frame. -/
def round (limits : Limits) (l : Layout) (input : Bytes) : Option Round :=
  if l.lengthKnown then l.bodyRound input
  else do
    let (l, rest) ← l.copyLength input
    if l.offset < Frame.prefixSize then
      return .waiting l (.needLength l.offset)
    else
      match l.beginBody limits with
      | .error fault => return .refused fault rest
      | .ok l => l.bodyRound rest

/-- A body that is complete has all that was missing from the chunk. -/
lemma bodyRound_shorter {l : Layout} {input rest : Bytes} {frame : Frame}
    (e : l.bodyRound input = some (.complete frame rest)) :
    rest.length + (l.declared - l.offset) = input.length := by
  obtain ⟨⟨l', rest'⟩, copied, e⟩ := Option.bind_eq_some_iff.1 e
  obtain ⟨⟨taken, behind⟩, piece, copied⟩ := Option.bind_eq_some_iff.1 copied
  obtain ⟨inside, rfl, rfl⟩ := pieceOf?_eq_some_iff.1 piece
  cases copied
  dsimp only at e
  split at e
  · cases e
  · rename_i whole
    obtain ⟨_, _, e⟩ := Option.bind_eq_some_iff.1 e
    cases e
    rw [List.length_take] at whole
    rw [List.length_drop]
    omega

/-- To copy a length makes a chunk no longer. -/
lemma copyLength_shorter {l l' : Layout} {input rest : Bytes}
    (e : l.copyLength input = some (l', rest)) : rest.length ≤ input.length := by
  obtain ⟨⟨taken, behind⟩, piece, e⟩ := Option.bind_eq_some_iff.1 e
  obtain ⟨inside, rfl, rfl⟩ := pieceOf?_eq_some_iff.1 piece
  obtain ⟨_, _, e⟩ := Option.bind_eq_some_iff.1 e
  cases e
  rw [List.length_drop]
  omega

/-- A body that is begun misses a byte at least. -/
lemma beginBody_eq_ok {limits : Limits} {l l' : Layout} (e : l.beginBody limits = .ok l') :
    0 < l'.declared - l'.offset := by
  cases ok : limits.check (Bytes.toNatBigEndian l.lengthBytes) with
  | error fault =>
    simp only [beginBody, ok] at e
    cases e
  | ok u =>
    simp only [beginBody, ok] at e
    cases e
    exact Limits.pos_of_check ok

/-- A round that ends with a frame has taken something, if only the length was not known before. -/
lemma round_shorter {limits : Limits} {l : Layout} {input rest : Bytes} {frame : Frame}
    (e : l.round limits input = some (.complete frame rest)) :
    2 * rest.length < 2 * input.length + l.lengthKnown.toNat := by
  unfold round at e
  split at e
  · rename_i known
    have shorter := bodyRound_shorter e
    rw [known, Bool.toNat_true]
    omega
  · obtain ⟨⟨l', behind⟩, copied, e⟩ := Option.bind_eq_some_iff.1 e
    have length := copyLength_shorter copied
    dsimp only at e
    split at e
    · cases e
    · split at e
      · cases e
      · rename_i begun
        have missing := beginBody_eq_ok begun
        have body := bodyRound_shorter e
        omega

/-! ### Chunks -/

/-- What a chunk leaves: the layout, the reports and the fault that ended it early. -/
structure Outcome where
  layout : Layout
  events : List Event
  fault : Option Fault := none
  /-- What of the chunk is behind the fault. -/
  rest : Bytes := []

/-- Takes a chunk, round by round, and reports behind what there is in a buffer. A frame or a fault
leaves a new layout. -/
def feedInto (limits : Limits) (l : Layout) (input : Bytes) (events : List Event) :
    Option Outcome :=
  match _ : l.round limits input with
  | none => none
  | some (.waiting l event) => some { layout := l, events := events ++ [event] }
  | some (.refused fault rest) => some { layout := {}, events, fault := some fault, rest }
  | some (.complete frame rest) =>
    if rest = [] then some { layout := {}, events := events ++ [.frame frame, .needLength 0] }
    else feedInto limits {} rest (events ++ [.frame frame])
termination_by 2 * input.length + l.lengthKnown.toNat
decreasing_by exact round_shorter ‹_›

/-! ### States of a decoder -/

/-- A layout with `got` of a length. The room behind it is as it was in the beginning. -/
def ofLength (got : Bytes) : Layout :=
  { offset := got.length
    lengthBytes := got ++ List.replicate (Frame.prefixSize - got.length) 0 }

/-- A layout with a whole length and `got` of the body. -/
def ofBody (size got : Bytes) : Layout :=
  { lengthKnown := true
    declared := Bytes.toNatBigEndian size
    offset := got.length
    lengthBytes := size
    body := got }

/-- A layout holds the state of a decoder. -/
inductive Holds (limits : Limits) : Layout → State → Prop where
  | length {got : Bytes} :
    got.length < Frame.prefixSize →
    Holds limits (ofLength got) (.length got)
  | body {size got : Bytes} :
    size.length = Frame.prefixSize →
    limits.check (Bytes.toNatBigEndian size) = .ok () →
    got.length < Bytes.toNatBigEndian size →
    Holds limits (ofBody size got) (.body (Bytes.toNatBigEndian size) got.length got.reverse)

/-- What a round does is what feeding does, up to the first frame or to the byte that is refused. -/
inductive Follows (limits : Limits) (s : State) (input : Bytes) : Round → Prop where
  | waiting {l : Layout} {s' : State} :
    l.Holds limits s' →
    feedFrom limits s input [] = ⟨⟨limits, s'⟩, [], none⟩ →
    Follows limits s input (.waiting l (waiting ⟨limits, s'⟩))
  | refused {size rest : Bytes} {last : UInt8} {fault : Fault} :
    input = size ++ last :: rest →
    (feedFrom limits s size []).fault = none →
    feedFrom limits s (size ++ [last]) [] = ⟨⟨limits, .length []⟩, [], some fault⟩ →
    Follows limits s input (.refused fault rest)
  | complete {taken rest : Bytes} {frame : Frame} :
    taken ≠ [] →
    input = taken ++ rest →
    feedFrom limits s taken [] = ⟨⟨limits, .length []⟩, [frame], none⟩ →
    Follows limits s input (.complete frame rest)

section Holds

variable {limits : Limits} {l : Layout} {s : State}

/-- A new layout holds nothing. -/
lemma holds_empty (limits : Limits) : Holds limits {} (.length []) :=
  @Holds.length limits [] (by decide)

/-- A layout is known from the state that it holds. -/
lemma Holds.eq {l' : Layout} (h : l.Holds limits s) (h' : l'.Holds limits s) : l = l' := by
  cases h with
  | length short =>
    cases h'
    rfl
  | @body size got four ok short =>
    generalize state : State.body (Bytes.toNatBigEndian size) got.length got.reverse = s at h'
    cases h' with
    | length _ => cases state
    | @body size' got' four' _ _ =>
      obtain ⟨declared, _, body⟩ := State.body.inj state
      obtain rfl : got = got' := List.reverse_injective body
      obtain rfl : size = size' := by
        rw [← Bytes.ofNatBigEndian_toNatBigEndian four, declared,
          Bytes.ofNatBigEndian_toNatBigEndian four']
      rfl

/-- A piece that fits the room behind the front of a buffer is put there. -/
lemma overwrite?_append {got room bytes : Bytes} (fits : bytes.length ≤ room.length) :
    overwrite? (got ++ room) got.length bytes = some (got ++ bytes ++ room.drop bytes.length) := by
  unfold overwrite?
  rw [if_pos (by rw [List.length_append]; omega), List.take_left, List.drop_append,
    List.drop_of_length_le (by omega), Nat.add_sub_cancel_left, List.nil_append]

/-- A body copies what it misses, or all that there is. -/
lemma copyBody_ofBody {size got : Bytes} {missing : Nat}
    (declared : Bytes.toNatBigEndian size = got.length + missing) (input : Bytes) :
    (ofBody size got).copyBody input =
      some (ofBody size (got ++ input.take missing), input.drop missing) := by
  have piece : pieceOf? (Bytes.toNatBigEndian size) got.length input =
      some (input.take missing, input.drop missing) := by
    have difference : Bytes.toNatBigEndian size - got.length = missing := by omega
    rw [pieceOf?_eq_some_iff, difference]
    exact ⟨by omega, rfl, rfl⟩
  simp only [copyBody, ofBody, piece, Option.bind_eq_bind, Option.bind_some, Option.pure_def,
    List.length_append]

/-- A length copies what it misses, or all that there is. -/
lemma copyLength_ofLength {got : Bytes} {missing : Nat}
    (four : Frame.prefixSize = got.length + missing) (input : Bytes) :
    (ofLength got).copyLength input =
      some (ofLength (got ++ input.take missing), input.drop missing) := by
  have piece : pieceOf? Frame.prefixSize got.length input =
      some (input.take missing, input.drop missing) := by
    have difference : Frame.prefixSize - got.length = missing := by omega
    rw [pieceOf?_eq_some_iff, difference]
    exact ⟨by omega, rfl, rfl⟩
  have fits : (input.take missing).length ≤
      (List.replicate (Frame.prefixSize - got.length) (0 : UInt8)).length := by
    rw [List.length_take, List.length_replicate]
    omega
  simp only [copyLength, ofLength, piece, overwrite?_append fits, Option.bind_eq_bind,
    Option.bind_some, Option.pure_def, List.length_append, List.drop_replicate, Nat.sub_sub]

/-- A whole length that passes the checks begins a body. -/
lemma beginBody_ofLength (limits : Limits) {size : Bytes} (four : size.length = Frame.prefixSize) :
    (ofLength size).beginBody limits =
      (limits.check (Bytes.toNatBigEndian size)).map fun _ => ofBody size [] := by
  have whole : size ++ List.replicate (Frame.prefixSize - size.length) 0 = size := by
    rw [four, Nat.sub_self, List.replicate_zero, List.append_nil]
  simp only [beginBody, ofLength, whole]
  cases limits.check (Bytes.toNatBigEndian size) <;> rfl

/-- A round that finds the length complete stays inside its buffers and does what feeding does. -/
lemma bodyRound_follows {size got : Bytes} (four : size.length = Frame.prefixSize)
    (ok : limits.check (Bytes.toNatBigEndian size) = .ok ())
    (short : got.length < Bytes.toNatBigEndian size) (input : Bytes) :
    ∃ round, (ofBody size got).bodyRound input = some round ∧
      Follows limits (.body (Bytes.toNatBigEndian size) got.length got.reverse) input round := by
  obtain ⟨missing, declared⟩ := Nat.exists_eq_add_of_le short.le
  unfold bodyRound
  rw [copyBody_ofBody declared]
  simp only [Option.bind_eq_bind, Option.bind_some, Option.pure_def]
  by_cases more : input.length < missing
  · have all : input.take missing = input := List.take_of_length_le more.le
    have under : (got ++ input).length < Bytes.toNatBigEndian size := by
      rw [List.length_append]
      omega
    rw [all]
    refine ⟨_, if_pos under, .waiting (.body four ok under) ?_⟩
    rw [feedFrom_body_short (by omega), List.length_append, List.reverse_append, List.reverse_nil]
  · have taken : (input.take missing).length = missing := by
      rw [List.length_take]
      omega
    have whole : (got ++ input.take missing).length = Bytes.toNatBigEndian size := by
      rw [List.length_append, taken, declared]
    have some_ : input.take missing ≠ [] := List.ne_nil_of_length_pos (by omega)
    obtain ⟨frame, made⟩ : ∃ frame, frameOfBody (got ++ input.take missing) = some frame := by
      cases body : got ++ input.take missing with
      | nil =>
        rw [body, List.length_nil] at whole
        omega
      | cons tag payload => exact ⟨_, rfl⟩
    rw [if_neg (show ¬ (ofBody size _).offset < (ofBody size _).declared from whole.not_lt)]
    refine ⟨.complete frame (input.drop missing), ?_,
      .complete some_ (List.take_append_drop ..).symm ?_⟩
    · simp only [ofBody, made, Option.bind_some]
    · have fed : feedFrom limits (.body (Bytes.toNatBigEndian size) got.length got.reverse)
          (input.take missing ++ []) [] = feedFrom limits (.length []) [] [frame] :=
        feedFrom_body (by omega) some_ (by rwa [List.reverse_reverse]) []
      rwa [List.append_nil] at fed

/-- A length that a round completes is judged, and where it passes the body is copied behind it. -/
lemma judged_follows {got size : Bytes} (four : (got ++ size).length = Frame.prefixSize)
    (some_ : size ≠ []) (rest : Bytes) :
    ∃ round,
      (match (ofLength (got ++ size)).beginBody limits with
        | .error fault => some (.refused fault rest)
        | .ok l => l.bodyRound rest) = some round ∧
      Follows limits (.length got) (size ++ rest) round := by
  have whole : got.length + size.length = Frame.prefixSize := by rw [← four, List.length_append]
  have judged (later : Bytes) : feedFrom limits (.length got) (size ++ later) [] = _ :=
    feedFrom_length whole some_ later
  rw [beginBody_ofLength limits four]
  cases ok : limits.check (Bytes.toNatBigEndian (got ++ size)) with
  | error fault =>
    obtain ⟨front, last, rfl⟩ : ∃ front last, size = front ++ [last] :=
      ⟨_, _, (List.dropLast_append_getLast some_).symm⟩
    rw [List.length_append, List.length_singleton] at whole
    have refused := judged []
    rw [List.append_nil, ok] at refused
    refine ⟨.refused fault rest, rfl, .refused (List.append_assoc ..) ?_ refused⟩
    rw [feedFrom_length_short (by omega)]
  | ok u =>
    simp only [ok] at judged
    have short : ([] : Bytes).length < Bytes.toNatBigEndian (got ++ size) := Limits.pos_of_check ok
    obtain ⟨round, made, follows⟩ := bodyRound_follows four ok short rest
    refine ⟨round, made, ?_⟩
    -- The bytes that the body takes stand behind those of the length.
    cases follows with
    | waiting holds fed => exact .waiting holds ((judged rest).trans fed)
    | @refused front rest' last fault split clean refused =>
      have behind : size ++ rest = (size ++ front) ++ last :: rest' := by
        rw [split, List.append_assoc]
      refine .refused behind ((congrArg Fed.fault (judged front)).trans clean) ?_
      rw [List.append_assoc]
      exact (judged _).trans refused
    | @complete taken rest' frame more split fed =>
      refine .complete (List.append_ne_nil_of_left_ne_nil some_ taken) ?_
        ((judged taken).trans fed)
      rw [split, List.append_assoc]

/-- A round stays inside its buffers and does what feeding does. -/
lemma Holds.round (h : l.Holds limits s) (input : Bytes) :
    ∃ round, l.round limits input = some round ∧ Follows limits s input round := by
  cases h with
  | body four ok short => exact bodyRound_follows four ok short input
  | @length got short =>
    obtain ⟨missing, whole⟩ := Nat.exists_eq_add_of_le short.le
    have step : (ofLength got).round limits input = _ :=
      if_neg (show ¬ (false = true) from nofun)
    rw [step, copyLength_ofLength whole]
    simp only [Option.bind_eq_bind, Option.bind_some, Option.pure_def]
    by_cases more : input.length < missing
    · have all : input.take missing = input := List.take_of_length_le more.le
      have under : (got ++ input).length < Frame.prefixSize := by
        rw [List.length_append]
        omega
      rw [all]
      refine ⟨_, if_pos under, .waiting (.length under) ?_⟩
      rw [feedFrom_length_short (by omega), List.reverse_nil]
    · have taken : (input.take missing).length = missing := by
        rw [List.length_take]
        omega
      have four : (got ++ input.take missing).length = Frame.prefixSize := by
        rw [List.length_append, taken, whole]
      have some_ : input.take missing ≠ [] := List.ne_nil_of_length_pos (by omega)
      obtain ⟨round, made, follows⟩ := judged_follows four some_ (input.drop missing)
      rw [List.take_append_drop] at follows
      rw [if_neg (show ¬ (ofLength _).offset < Frame.prefixSize from four.not_lt)]
      exact ⟨round, made, follows⟩

/-- A chunk is taken without leaving the buffers, with the reports and the fault of feeding. What is
left of it begins behind the byte that is refused. -/
lemma Holds.feedInto (h : l.Holds limits s) (input : Bytes) (events : List Event) :
    ∃ l' rest, l.feedInto limits input events =
        some ⟨l', events ++ (feedFrom limits s input []).events,
          (feedFrom limits s input []).fault, rest⟩ ∧
      l'.Holds limits (feedFrom limits s input []).decoder.state ∧
      ((feedFrom limits s input []).fault.isSome = true →
        ∃ n, refusedAt? ⟨limits, s⟩ input = some n ∧ n + rest.length = input.length) := by
  -- The induction is on the rounds: what one leaves of a chunk is shorter.
  induction size : input.length using Nat.strong_induction_on generalizing l s input events with
  | h _ ih =>
    subst size
    obtain ⟨round, made, follows⟩ := h.round input
    unfold Layout.feedInto
    rw [made]
    cases follows with
    | waiting holds fed =>
      rw [fed]
      exact ⟨_, _, rfl, holds, nofun⟩
    | @refused front rest last fault split clean refused =>
      have whole : feedFrom limits s input [] = ⟨⟨limits, .length []⟩, [], some fault⟩ := by
        have bad := feedFrom_append_of_fault (congrArg Fed.fault refused) rest
        rw [List.append_assoc, List.singleton_append, ← split] at bad
        rw [bad, refused]
      have here : refusedAt? ⟨limits, s⟩ input = some (front.length + 1) := by
        rw [split]
        exact refusedAt?_of_last clean (congrArg Fed.fault refused)
      rw [whole]
      refine ⟨{}, rest, by simp [Fed.events], holds_empty limits, fun _ => ⟨_, here, ?_⟩⟩
      rw [split, List.length_append, List.length_cons]
      omega
    | @complete taken rest frame some_ split fed =>
      have more := List.length_pos_iff.2 some_
      have whole : feedFrom limits s input [] = feedFrom limits (.length []) rest [frame] := by
        rw [split, feedFrom_append (congrArg Fed.fault fed), fed]
        rfl
      rw [whole, feedFrom_frames]
      dsimp only
      split
      · rename_i last
        rw [last]
        exact ⟨{}, [], by simp [Fed.events, feedFrom, waiting], holds_empty limits, nofun⟩
      · have length : input.length = taken.length + rest.length := by
          rw [split, List.length_append]
        obtain ⟨l', behind, answered, holds, position⟩ :=
          ih rest.length (by omega) (holds_empty limits) rest (events ++ [.frame frame]) rfl
        refine ⟨l', behind, ?_, holds, fun bad => ?_⟩
        · rw [answered]
          simp [Fed.events]
        · have before : Decoder.feed ⟨limits, s⟩ taken = ⟨⟨limits, .length []⟩, [frame], none⟩ := fed
          obtain ⟨n, here, sum⟩ := position bad
          refine ⟨taken.length + n, ?_, by omega⟩
          rw [split, refusedAt?_append (congrArg Fed.fault before), before, here, Option.map_some]

end Holds

/-! ### What a layout shows -/

/-- Whether no byte of a frame is there. -/
def isIdle (l : Layout) : Bool := !l.lengthKnown && l.offset == 0

/-- The number of bytes missing from the body under way. -/
def remaining? (l : Layout) : Option (Option Nat) :=
  if l.lengthKnown then (minus? l.declared l.offset).map some else some none

/-- The bytes of the frame under way. -/
def held (l : Layout) : Bytes :=
  if l.lengthKnown then l.lengthBytes ++ l.body else l.lengthBytes.take l.offset

/-- A report that agrees with what else a layout shows. -/
def Awaits (l : Layout) : Event → Prop
  | .needLength got => got = l.offset ∧ l.isIdle = decide (got = 0) ∧ l.remaining? = some none
  | .needBody got declared =>
    got = l.offset ∧ declared = l.declared ∧ got < declared ∧
      l.isIdle = false ∧ l.remaining? = some (some (declared - got))
  | .frame _ => False

/-- The offset and the buffers are within their bounds. -/
structure Sound (limits : Limits) (l : Layout) : Prop where
  room : l.lengthBytes.length = Frame.prefixSize
  length : l.lengthKnown = false → l.offset < Frame.prefixSize ∧ l.body = []
  body : l.lengthKnown = true →
    1 ≤ l.declared ∧ l.declared ≤ limits.maxLength ∧
      l.offset < l.declared ∧ l.body.length = l.offset

namespace Holds

variable {limits : Limits} {l : Layout} {s : State}

/-- A layout that holds a state is within its bounds. -/
lemma sound (h : l.Holds limits s) : l.Sound limits := by
  cases h with
  | @length got short =>
    have room : (got ++ List.replicate (Frame.prefixSize - got.length) (0 : UInt8)).length =
        Frame.prefixSize := by
      rw [List.length_append, List.length_replicate]
      omega
    exact { room, length := fun _ => ⟨short, rfl⟩, body := nofun }
  | body four ok short =>
    exact
      { room := four
        length := nofun
        body := fun _ => ⟨Limits.pos_of_check ok, Limits.le_of_check ok, short, rfl⟩ }

/-- A state that is held is valid. -/
lemma valid (h : l.Holds limits s) : s.Valid limits := by
  cases h with
  | length short => exact short
  | body four ok short =>
    have below := Bytes.toNatBigEndian_lt four
    refine ⟨ok, ?_, List.length_reverse.symm, short⟩
    unfold Frame.maxDeclared
    omega

/-- A layout is idle just where the state that it holds is. -/
lemma isIdle (h : l.Holds limits s) : l.isIdle = Decoder.isIdle ⟨limits, s⟩ := by
  cases h with
  | length short => simp [Layout.isIdle, Decoder.isIdle, ofLength]
  | body four ok short => simp [Layout.isIdle, Decoder.isIdle, ofBody]

/-- A layout misses what the state that it holds does. -/
lemma remaining? (h : l.Holds limits s) :
    l.remaining? = some (Decoder.remaining? ⟨limits, s⟩) := by
  cases h with
  | length short => rfl
  | body four ok short => simp [Layout.remaining?, Decoder.remaining?, ofBody, minus?, short.le]

/-- A layout has the bytes of the state that it holds. -/
lemma held (h : l.Holds limits s) : l.held = s.held := by
  cases h with
  | length short => simp [Layout.held, State.held, ofLength]
  | body four ok short =>
    simp [Layout.held, State.held, ofBody, Bytes.ofNatBigEndian_toNatBigEndian four]

/-- What a state waits for agrees with what the layout shows. -/
lemma awaits (h : l.Holds limits s) : l.Awaits (waiting ⟨limits, s⟩) := by
  have remaining := h.remaining?
  cases h with
  | length short => exact ⟨rfl, rfl, remaining⟩
  | body four ok short => exact ⟨rfl, rfl, short, rfl, remaining⟩

end Holds

end Layout

end Decoder

end StoreClient
