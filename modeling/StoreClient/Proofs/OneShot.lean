import Mathlib
import StoreClient.Proofs.Split

/-!
# Decoding at once and byte by byte

A complete buffer can be decoded by reading one frame after the other off its front
(`Frame.decodeAll`). A new decoder that is fed the same bytes gives the same frames, as long as the
declared lengths are within its maximum, and meets its fault at the same length (`feed_eq_decodeAll`).

What relates the two is how an input splits (`Splits`): into the bytes of frames that pass the checks
and a rest at whose front there is no such frame. That every input splits is `splits_split`; each side
is then read off by induction on the frames.
-/

namespace StoreClient

namespace Frame

/-! ### Decoding at once -/

/-- What comes of reading frames off the front of a buffer for as long as they are complete. -/
@[ext]
structure Decoded where
  frames : List Frame
  /-- What is left of the buffer. -/
  rest : Bytes
  /-- The fault at the front of what is left. -/
  fault : Option Fault
  deriving DecidableEq

/-- Reads one frame after the other off the front of a buffer, whatever lengths are declared. -/
def decodeAll (input : Bytes) : Decoded :=
  match _ : decode? input with
  | .error fault => { frames := [], rest := input, fault := some fault }
  | .ok none => { frames := [], rest := input, fault := none }
  | .ok (some (frame, size)) =>
    let later := decodeAll (input.drop size)
    { later with frames := frame :: later.frames }
termination_by input.length
decreasing_by
  obtain ⟨positive, inside⟩ := size_of_decode? ‹_›
  rw [List.length_drop]
  omega

section decodeAll

variable {input : Bytes} {frame : Frame} {size : Nat}

/-- Nothing is taken of an input that is refused. -/
lemma decodeAll_error {fault : Fault} (refused : decode? input = .error fault) :
    decodeAll input = { frames := [], rest := input, fault := some fault } := by
  rw [decodeAll]
  split <;> simp_all

/-- Nothing is taken of an input that is incomplete. -/
lemma decodeAll_none (incomplete : decode? input = .ok none) :
    decodeAll input = { frames := [], rest := input, fault := none } := by
  rw [decodeAll]
  split <;> simp_all

/-- The frame at the front of an input is taken, and then all of what is behind it. -/
lemma decodeAll_some (decoded : decode? input = .ok (some (frame, size))) :
    decodeAll input =
      { decodeAll (input.drop size) with
        frames := frame :: (decodeAll (input.drop size)).frames } := by
  rw [decodeAll]
  split <;> simp_all

/-- What is read off the front of a buffer are the bytes of a frame. -/
lemma decode?_sound (decoded : decode? input = .ok (some (frame, size))) :
    size = frame.size ∧
      frame.declaredLength = Bytes.toNatBigEndian (input.take prefixSize) ∧
      frame.Fits ∧ input = frame.bytes ++ input.drop size := by
  unfold decode? at decoded
  split at decoded
  · cases decoded
  · rename_i long
    dsimp only at decoded
    split at decoded
    · cases decoded
    · split at decoded
      · cases decoded
      · rename_i whole
        split at decoded
        · cases decoded
        · rename_i tag payload body
          simp only [Except.ok.injEq, Option.some.injEq, Prod.mk.injEq] at decoded
          obtain ⟨rfl, rfl⟩ := decoded
          have four : (input.take prefixSize).length = 4 := by
            rw [List.length_take]
            unfold prefixSize at *
            omega
          have below := Bytes.toNatBigEndian_lt four
          have declared : (Frame.mk tag payload).declaredLength =
              Bytes.toNatBigEndian (input.take prefixSize) := by
            have sizes := congrArg List.length body
            simp only [List.length_take, List.length_drop, List.length_cons] at sizes
            show 1 + payload.length = _
            omega
          refine ⟨by rw [size, declared], declared, ?_, ?_⟩
          · unfold Fits maxDeclared
            omega
          · rw [bytes, declared, Bytes.ofNatBigEndian_toNatBigEndian four, ← body,
              List.append_assoc, ← List.drop_drop, List.take_append_drop, List.take_append_drop]

/-- Decoding at once refuses lengths of zero only. -/
lemma decode?_eq_error_iff {fault : Fault} :
    decode? input = .error fault ↔
      ¬ input.length < prefixSize ∧ Bytes.toNatBigEndian (input.take prefixSize) = 0 ∧
        fault = .format .noRoomForTag := by
  unfold decode?
  constructor
  · intro refused
    split at refused
    · cases refused
    · rename_i long
      dsimp only at refused
      split at refused
      · rename_i zero
        exact ⟨long, zero, (Except.error.inj refused).symm⟩
      · split at refused
        · cases refused
        · split at refused <;> cases refused
  · rintro ⟨long, zero, rfl⟩
    rw [if_neg long]
    exact if_pos zero

/-- Frames end in a fault where what is behind them is refused. -/
lemma decodeAll_eq_error_iff {fault : Fault} :
    decodeAll input = { frames := [], rest := input, fault := some fault } ↔
      decode? input = .error fault := by
  cases decoded : decode? input with
  | error f => simp [decodeAll_error decoded]
  | ok found =>
    cases found with
    | none => simp [decodeAll_none decoded]
    | some found => simp [decodeAll_some decoded]

/-- Where the first length is above a maximum, no frame comes before one above it. -/
lemma takeWhile_decodeAll {maxLength : Nat}
    (above : maxLength < Bytes.toNatBigEndian (input.take prefixSize)) :
    (decodeAll input).frames.takeWhile (·.declaredLength ≤ maxLength) = [] := by
  cases decoded : decode? input with
  | error f => rw [decodeAll_error decoded, List.takeWhile_nil]
  | ok found =>
    cases found with
    | none => rw [decodeAll_none decoded, List.takeWhile_nil]
    | some found =>
      obtain ⟨_, declared, _⟩ := decode?_sound decoded
      rw [decodeAll_some decoded, List.takeWhile_cons_of_neg]
      simpa [declared] using above

end decodeAll

end Frame

namespace Decoder

open StoreClient.Frame (prefixSize split decode? decodeAll)

/-! ### How an input splits -/

/-- An input is the bytes of frames whose lengths pass the checks, and then a rest: it is too short
for a length, or its length does not pass the checks, or its body is incomplete. -/
inductive Splits (limits : Limits) : Bytes → List Frame → Option Fault → Bytes → Prop where
  | short {rest : Bytes} :
    rest.length < prefixSize →
    Splits limits rest [] none rest
  | refused {rest : Bytes} {fault : Fault} :
    ¬ rest.length < prefixSize →
    limits.check (Bytes.toNatBigEndian (rest.take prefixSize)) = .error fault →
    Splits limits rest [] (some fault) rest
  | incomplete {rest : Bytes} :
    ¬ rest.length < prefixSize →
    limits.check (Bytes.toNatBigEndian (rest.take prefixSize)) = .ok () →
    decode? rest = .ok none →
    Splits limits rest [] none rest
  | frame {frame : Frame} {input rest : Bytes} {frames : List Frame} {fault : Option Fault} :
    frame.Fits →
    limits.check frame.declaredLength = .ok () →
    Splits limits input frames fault rest →
    Splits limits (frame.bytes ++ input) (frame :: frames) fault rest

variable {limits : Limits} {input rest : Bytes} {frames : List Frame} {fault : Option Fault}

/-- Every input splits into the frames that are read off its front and what is left. -/
lemma splits_split (limits : Limits) (input : Bytes) :
    ∃ rest, Splits limits input (split limits input).frames (split limits input).fault rest := by
  induction input using Frame.split.induct limits with
  | case1 input short =>
    rw [Frame.split_short short]
    exact ⟨input, .short short⟩
  | case2 input long fault bad =>
    rw [Frame.split_bad long bad]
    exact ⟨input, .refused long bad⟩
  | case3 input long ok frame size decoded ih =>
    obtain ⟨rest, splits⟩ := ih
    obtain ⟨_, declared, fits, whole⟩ := Frame.decode?_sound decoded
    rw [Frame.split_frame long ok decoded]
    refine ⟨rest, ?_⟩
    have more := Splits.frame fits (by rwa [declared]) splits
    rwa [← whole] at more
  | case4 input long ok nothing =>
    have incomplete : decode? input = .ok none := by
      by_contra some_
      have whole : ¬ input.length < prefixSize + Bytes.toNatBigEndian (input.take prefixSize) :=
        fun short => some_ (decode?_eq_none long ok short)
      obtain ⟨frame, decoded, _⟩ := decode?_eq_some long ok whole
      exact nothing _ _ decoded
    rw [Frame.split_incomplete long ok incomplete]
    exact ⟨input, .incomplete long ok incomplete⟩

/-- A length that is refused is zero, or above the maximum, or takes too much memory. -/
lemma Limits.check_error {declared : Nat} {f : Fault} (bad : limits.check declared = .error f) :
    (declared = 0 ∧ f = .format .noRoomForTag) ∨
      (limits.maxLength < declared ∧ f = .format (.frameTooLong declared limits.maxLength)) ∨
      ∃ cause, f = .outOfMemory cause := by
  unfold check at bad
  split at bad
  · rename_i zero
    exact .inl ⟨zero, (Except.error.inj bad).symm⟩
  · split at bad
    · rename_i long
      exact .inr (.inl ⟨long, (Except.error.inj bad).symm⟩)
    · split at bad
      · exact .inr (.inr ⟨_, (Except.error.inj bad).symm⟩)
      · cases bad

/-- Only a length of zero has no room for a tag. -/
lemma Limits.check_eq_noRoom_iff {declared : Nat} :
    limits.check declared = .error (.format .noRoomForTag) ↔ declared = 0 := by
  constructor
  · intro bad
    rcases check_error bad with ⟨zero, _⟩ | ⟨_, other⟩ | ⟨_, other⟩
    · exact zero
    · cases other
    · cases other
  · rintro rfl
    rfl

/-- A length above the maximum is refused for that. -/
lemma Limits.check_long {declared : Nat} (long : limits.maxLength < declared) :
    limits.check declared = .error (.format (.frameTooLong declared limits.maxLength)) := by
  unfold check
  rw [if_neg (by omega), if_pos long]

/-- A length is refused as too long where it is above the maximum, and with its number. -/
lemma Limits.check_eq_tooLong_iff {declared n : Nat} :
    limits.check declared = .error (.format (.frameTooLong n limits.maxLength)) ↔
      declared = n ∧ limits.maxLength < n := by
  constructor
  · intro bad
    rcases check_error bad with ⟨_, other⟩ | ⟨long, same⟩ | ⟨_, other⟩
    · cases other
    · cases same
      exact ⟨rfl, long⟩
    · cases other
  · rintro ⟨rfl, long⟩
    exact check_long long

namespace Splits

/-- An input is the bytes of its frames and what is behind them. -/
lemma append (splits : Splits limits input frames fault rest) :
    input = frames.flatMap Frame.bytes ++ rest := by
  induction splits with
  | short _ => rfl
  | refused _ _ => rfl
  | incomplete _ _ _ => rfl
  | frame _ _ _ ih => rw [ih, List.flatMap_cons, List.append_assoc]

/-- What is behind the frames is what is left of the input without them. -/
lemma drop (splits : Splits limits input frames fault rest) :
    input.drop (frames.map Frame.size).sum = rest := by
  induction splits with
  | short _ => rfl
  | refused _ _ => rfl
  | incomplete _ _ _ => rfl
  | frame _ _ _ ih =>
    rw [List.map_cons, List.sum_cons, ← List.drop_drop, ← Frame.length_bytes, List.drop_left]
    exact ih

/-- The length of every frame has passed the checks. -/
lemma passes (splits : Splits limits input frames fault rest) :
    ∀ f ∈ frames, limits.check f.declaredLength = .ok () := by
  induction splits with
  | short _ => nofun
  | refused _ _ => nofun
  | incomplete _ _ _ => nofun
  | frame _ ok _ ih => exact List.forall_mem_cons.2 ⟨ok, ih⟩

/-- Decoding at once goes on behind the frames. -/
lemma decodeAll (splits : Splits limits input frames fault rest) :
    decodeAll input =
      { decodeAll rest with frames := frames ++ (decodeAll rest).frames } := by
  induction splits with
  | short _ => rfl
  | refused _ _ => rfl
  | incomplete _ _ _ => rfl
  | @frame frame input rest frames fault fits _ _ ih =>
    have decoded := Frame.decode?_bytes_append fits input
    rw [Frame.decodeAll_some decoded, ← Frame.length_bytes, List.drop_left, ih]
    rfl

/-- There is a fault exactly if the length at the front of the rest does not pass the checks. -/
lemma fault_eq_some_iff (splits : Splits limits input frames fault rest) {f : Fault} :
    fault = some f ↔ ¬ rest.length < prefixSize ∧
      limits.check (Bytes.toNatBigEndian (rest.take prefixSize)) = .error f := by
  induction splits with
  | short short => simp [short]
  | refused long bad => simp [long, bad]
  | incomplete long ok _ => simp [ok]
  | frame _ _ _ ih => exact ih

/-- Where there is no fault, what is behind the frames is incomplete. -/
lemma decode?_rest (splits : Splits limits input frames fault rest) (clean : fault = none) :
    decode? rest = .ok none := by
  induction splits with
  | short short => exact if_pos short
  | refused _ _ => cases clean
  | incomplete _ _ nothing => exact nothing
  | frame _ _ _ ih => exact ih clean

/-- The frames are those that decoding at once gives before the first one above the maximum, where
memory can be had. -/
lemma frames_eq (splits : Splits limits input frames fault rest)
    (allocated : ∀ cause, fault ≠ some (.outOfMemory cause)) :
    frames = (Frame.decodeAll input).frames.takeWhile (·.declaredLength ≤ limits.maxLength) := by
  have within : ∀ f ∈ frames, decide (f.declaredLength ≤ limits.maxLength) = true := fun f m =>
    decide_eq_true (Limits.le_of_check (splits.passes f m))
  have nothing : (Frame.decodeAll rest).frames.takeWhile
      (·.declaredLength ≤ limits.maxLength) = [] := by
    cases bad : fault with
    | none => rw [Frame.decodeAll_none (splits.decode?_rest bad), List.takeWhile_nil]
    | some f =>
      obtain ⟨long, refused⟩ := splits.fault_eq_some_iff.1 bad
      rcases Limits.check_error refused with ⟨zero, _⟩ | ⟨above, _⟩ | ⟨cause, rfl⟩
      · have error := Frame.decode?_eq_error_iff.2 ⟨long, zero, rfl⟩
        rw [Frame.decodeAll_error error, List.takeWhile_nil]
      · exact Frame.takeWhile_decodeAll above
      · exact absurd bad (allocated cause)
  rw [splits.decodeAll, List.takeWhile_append_of_pos within, nothing, List.append_nil]

end Splits

/-! ### Where a fault is met -/

/-- The bytes of a frame that fits are fed as the frame. -/
lemma feed_bytes {frame : Frame} (fits : frame.Fits)
    (ok : limits.check frame.declaredLength = .ok ()) :
    ({ limits } : Decoder).feed frame.bytes = ⟨{ limits }, [frame], none⟩ := by
  have front : frame.bytes.take prefixSize = Bytes.ofNatBigEndian frame.declaredLength := rfl
  have behind : frame.bytes.drop prefixSize = (frame.tag :: frame.payload) ++ [] := by
    rw [List.append_nil]
    rfl
  have number : Bytes.toNatBigEndian (Bytes.ofNatBigEndian frame.declaredLength) =
      frame.declaredLength := Bytes.toNatBigEndian_ofNatBigEndian (Nat.lt_succ_of_le fits)
  have long : ¬ frame.bytes.length < prefixSize := by
    rw [Frame.length_bytes]
    exact Nat.not_lt.2 (Nat.le_add_right _ _)
  have whole : 0 + (frame.tag :: frame.payload).length = frame.declaredLength := by
    rw [List.length_cons, Nat.zero_add]
    exact Nat.add_comm _ _
  have body : feedFrom limits (.body frame.declaredLength 0 [])
      ((frame.tag :: frame.payload) ++ []) [] = feedFrom limits (.length []) [] [frame] :=
    feedFrom_body whole (List.cons_ne_nil _ _) rfl []
  unfold feed
  rw [feedFrom_length_of_long long, front, number, ok, behind]
  exact body

/-- Both decoders refuse a length of zero behind the same frames. -/
lemma Splits.fault_eq_noRoom_iff (splits : Splits limits input frames fault rest) :
    fault = some (.format .noRoomForTag) ↔
      Frame.decodeAll input = { frames, rest, fault := some (.format .noRoomForTag) } := by
  rw [splits.fault_eq_some_iff, Limits.check_eq_noRoom_iff, splits.decodeAll]
  constructor
  · rintro ⟨long, zero⟩
    have error := Frame.decode?_eq_error_iff.2 ⟨long, zero, rfl⟩
    rw [Frame.decodeAll_error error, List.append_nil]
  · intro same
    obtain ⟨none_, here, fault_⟩ := Frame.Decoded.mk.inj same
    have nothing : Frame.decodeAll rest = { frames := [], rest, fault := some _ } :=
      Frame.Decoded.ext (List.append_right_eq_self.1 none_) here fault_
    obtain ⟨long, zero, _⟩ := Frame.decode?_eq_error_iff.1 (Frame.decodeAll_eq_error_iff.1 nothing)
    exact ⟨long, zero⟩

/-- A fault is met with the last byte of the length at the front of the rest. -/
lemma Splits.refusedAt? {f : Fault} (splits : Splits limits input frames (some f) rest) :
    ({ limits } : Decoder).refusedAt? input =
      some ((frames.map Frame.size).sum + prefixSize) := by
  generalize bad : some f = fault at splits
  induction splits with
  | short _ => cases bad
  | incomplete _ _ _ => cases bad
  | @refused rest fault long refused =>
    have size : (rest.take prefixSize).length = prefixSize := by
      rw [List.length_take]
      omega
    rw [List.map_nil, List.sum_nil, Nat.zero_add, refusedAt?_eq_some]
    refine ⟨Nat.le_of_not_lt long, ?_, ?_⟩
    · unfold feed
      rw [feedFrom_length_of_long (by omega), List.take_take, Nat.min_self, refused]
      rfl
    · intro m less
      unfold feed
      rw [feedFrom_length_short]
      rw [List.length_take, List.length_nil]
      omega
  | @frame frame input rest frames fault fits ok _ ih =>
    have fed := feed_bytes fits ok
    rw [refusedAt?_append (by rw [fed]), fed, ih bad, Option.map_some, Frame.length_bytes,
      List.map_cons, List.sum_cons, Nat.add_assoc]

/-! ### What is missing -/

/-- What is missing where the rest of an input is incomplete. -/
def missing (rest : Bytes) : Event :=
  if rest.length < prefixSize then .needLength rest.length
  else .needBody (rest.length - prefixSize) (Bytes.toNatBigEndian (rest.take prefixSize))

/-- A decoder waits for what is missing of the frame under way. -/
lemma waiting_eq_missing {d : Decoder} (valid : d.state.Valid d.limits) :
    d.waiting = missing d.state.held := by
  obtain ⟨limits, state⟩ := d
  cases state with
  | length got => exact (if_pos valid).symm
  | body declared offset got =>
    obtain ⟨_, fits, rfl, _⟩ := valid
    have front : (Bytes.ofNatBigEndian declared ++ got.reverse).take prefixSize =
        Bytes.ofNatBigEndian declared := rfl
    have size : (Bytes.ofNatBigEndian declared ++ got.reverse).length = prefixSize + got.length := by
      rw [List.length_append, List.length_reverse]
      rfl
    have number : Bytes.toNatBigEndian (Bytes.ofNatBigEndian declared) = declared :=
      Bytes.toNatBigEndian_ofNatBigEndian (Nat.lt_succ_of_le fits)
    simp only [waiting, missing, State.held, size, front, number]
    rw [if_neg (by omega), Nat.add_sub_cancel_left]

/-- What a new decoder reports of an input without fault: its frames, and then what is missing behind
them. -/
lemma events_of_clean (clean : (({ limits } : Decoder).feed input).fault = none)
    (whole : input = (({ limits } : Decoder).feed input).frames.flatMap Frame.bytes ++ rest) :
    (({ limits } : Decoder).feed input).events =
      (({ limits } : Decoder).feed input).frames.map .frame ++ [missing rest] := by
  obtain ⟨valid, _, held, eq, kept⟩ := feedFrom_holds (State.valid_nil limits) input
  have same : rest = (({ limits } : Decoder).feed input).decoder.state.held :=
    (List.append_cancel_left (whole.symm.trans eq)).trans (kept clean)
  have limits_eq : (({ limits } : Decoder).feed input).decoder.limits = limits :=
    feedFrom_limits limits (.length []) input []
  rw [Fed.events, clean, same, ← waiting_eq_missing (by rwa [limits_eq])]
  rfl

/-! ### The two ways agree -/

/-- A new decoder that is fed a whole input, where memory can be had, gives the frames that decoding
at once gives before the first one above its maximum. It finds no room for a tag exactly where
decoding at once does, and it finds a length above its maximum exactly where that is the next length;
there is no other fault, and each is met with the last byte of the length. Without a fault the last
report is of what is missing behind the frames. -/
theorem feed_eq_decodeAll (limits : Limits) (input : Bytes)
    (allocated : ∀ cause, (({ limits } : Decoder).feed input).fault ≠ some (.outOfMemory cause)) :
    let d : Decoder := { limits }
    let fed := d.feed input
    let whole := decodeAll input
    let read := (fed.frames.map Frame.size).sum
    let rest := input.drop read
    fed.frames = whole.frames.takeWhile (·.declaredLength ≤ limits.maxLength) ∧
      (fed.fault = some (.format .noRoomForTag) ↔
        whole = { frames := fed.frames, rest, fault := some (.format .noRoomForTag) }) ∧
      (∀ declared, fed.fault = some (.format (.frameTooLong declared limits.maxLength)) ↔
        prefixSize ≤ rest.length ∧ Bytes.toNatBigEndian (rest.take prefixSize) = declared ∧
          limits.maxLength < declared) ∧
      (∀ fault, fed.fault = some fault →
        d.refusedAt? input = some (read + prefixSize) ∧
          (fault = .format .noRoomForTag ∨
            ∃ declared, fault = .format (.frameTooLong declared limits.maxLength))) ∧
      (fed.fault = none →
        whole = { frames := fed.frames, rest, fault := none } ∧
          fed.events = fed.frames.map .frame ++ [missing rest]) := by
  intro d fed whole read rest
  obtain ⟨rest', splits⟩ := splits_split limits input
  have idle : d.isIdle = true := rfl
  rw [← (feed_eq_split idle input).1, ← (feed_eq_split idle input).2] at splits
  obtain rfl : rest = rest' := splits.drop
  refine ⟨splits.frames_eq allocated, splits.fault_eq_noRoom_iff, ?_, ?_, ?_⟩
  · intro declared
    rw [splits.fault_eq_some_iff, Limits.check_eq_tooLong_iff, Nat.not_lt]
  · intro fault bad
    obtain ⟨_, why⟩ := splits.fault_eq_some_iff.1 bad
    refine ⟨?_, ?_⟩
    · rw [bad] at splits
      exact splits.refusedAt?
    · rcases Limits.check_error why with ⟨_, rfl⟩ | ⟨_, rfl⟩ | ⟨cause, rfl⟩
      · exact .inl rfl
      · exact .inr ⟨_, rfl⟩
      · exact absurd bad (allocated cause)
  · intro clean
    refine ⟨?_, events_of_clean clean splits.append⟩
    have nothing := Frame.decodeAll_none (splits.decode?_rest clean)
    show decodeAll input = _
    rw [splits.decodeAll, nothing, List.append_nil]

/-- A frame above the maximum is refused at its length, though decoding at once reads it and then meets
a length of zero behind it. -/
theorem feed_eq_decodeAll_above :
    let limits : Limits := { maxLength := 2 }
    let input : Bytes := [0, 0, 0, 2, 7, 8, 0, 0, 0, 3, 1, 2, 3, 0, 0, 0, 0]
    let fed := ({ limits } : Decoder).feed input
    (∀ cause, fed.fault ≠ some (.outOfMemory cause)) ∧
      decodeAll input =
        { frames := [{ tag := 7, payload := [8] }, { tag := 1, payload := [2, 3] }]
          rest := [0, 0, 0, 0]
          fault := some (.format .noRoomForTag) } ∧
      fed.frames = [{ tag := 7, payload := [8] }] ∧
      fed.fault = some (.format (.frameTooLong 3 2)) ∧
      ({ limits } : Decoder).refusedAt? input = some 10 := by
  intro limits input fed
  have fault : fed.fault = some (.format (.frameTooLong 3 2)) := by decide +kernel
  have allocated : ∀ cause, fed.fault ≠ some (.outOfMemory cause) := by
    intro cause other
    rw [fault] at other
    cases other
  obtain ⟨frames, _, _, met, _⟩ := feed_eq_decodeAll limits input allocated
  have whole : decodeAll input =
      { frames := [{ tag := 7, payload := [8] }, { tag := 1, payload := [2, 3] }]
        rest := [0, 0, 0, 0]
        fault := some (.format .noRoomForTag) } := by decide +kernel
  have first : fed.frames = [{ tag := 7, payload := [8] }] := by
    rw [frames, whole]
    decide
  refine ⟨allocated, whole, first, fault, ?_⟩
  rw [(met _ fault).1]
  decide +kernel

end Decoder

end StoreClient
