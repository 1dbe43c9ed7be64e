import Mathlib
import StoreClient.Proofs.Decoder

/-!
# Splitting inputs into frames

An input is split by reading one frame after the other off its front, as long as the declared
lengths pass the checks of a decoder (`Frame.split`). An idle decoder that is fed the input at once
gives the same frames and the same fault (`Decoder.feed_eq_split`).

A decoder works byte by byte. What it does with the bytes of a whole length or a whole body is said
here first (`feedFrom_length`, `feedFrom_body`, and `feedFrom_length_short`, `feedFrom_body_short`
where they are incomplete).
-/

namespace StoreClient

namespace Frame

/-- What is read off the front of a complete buffer is not empty and lies inside. -/
lemma size_of_decode? {input : Bytes} {frame : Frame} {size : Nat}
    (e : decode? input = .ok (some (frame, size))) : 0 < size ∧ size ≤ input.length := by
  unfold decode? at e
  split at e
  · cases e
  · dsimp only at e
    split at e
    · cases e
    · split at e
      · cases e
      · rename_i enough
        split at e
        · cases e
        · simp only [Except.ok.injEq, Option.some.injEq, Prod.mk.injEq] at e
          unfold prefixSize at *
          omega

/-- The frames at the front of an input, and the fault behind them if a declared length does not
pass the checks. -/
structure Split where
  frames : List Frame
  fault : Option Fault

/-- Reads one frame after the other off the front of an input. -/
def split (limits : Decoder.Limits) (input : Bytes) : Split :=
  if input.length < prefixSize then { frames := [], fault := none }
  else
    match limits.check (Bytes.toNatBigEndian (input.take prefixSize)) with
    | .error fault => { frames := [], fault := some fault }
    | .ok () =>
      match _ : decode? input with
      | .ok (some (frame, size)) =>
        let rest := split limits (input.drop size)
        { rest with frames := frame :: rest.frames }
      | _ => { frames := [], fault := none }
termination_by input.length
decreasing_by
  obtain ⟨positive, inside⟩ := size_of_decode? ‹_›
  rw [List.length_drop]
  omega

section split

variable {limits : Decoder.Limits} {input : Bytes}

/-- An input without a whole length has no frame. -/
lemma split_short (short : input.length < prefixSize) :
    split limits input = { frames := [], fault := none } := by
  rw [split, if_pos short]

/-- An input whose first length does not pass the checks has no frame but a fault. -/
lemma split_bad (long : ¬ input.length < prefixSize) {fault : Fault}
    (bad : limits.check (Bytes.toNatBigEndian (input.take prefixSize)) = .error fault) :
    split limits input = { frames := [], fault := some fault } := by
  rw [split, if_neg long, bad]

/-- The first frame is split off, and then what is behind it is split. -/
lemma split_frame (long : ¬ input.length < prefixSize)
    (ok : limits.check (Bytes.toNatBigEndian (input.take prefixSize)) = .ok ()) {frame : Frame}
    {size : Nat} (decoded : decode? input = .ok (some (frame, size))) :
    split limits input =
      { split limits (input.drop size) with
        frames := frame :: (split limits (input.drop size)).frames } := by
  rw [split, if_neg long, ok]
  dsimp only
  split
  · rename_i e
    rw [decoded] at e
    cases e
    rfl
  · rename_i nothing
    exact absurd decoded (nothing _ _)

/-- An input whose first frame is incomplete has no frame. -/
lemma split_incomplete (long : ¬ input.length < prefixSize)
    (ok : limits.check (Bytes.toNatBigEndian (input.take prefixSize)) = .ok ())
    (nothing : decode? input = .ok none) :
    split limits input = { frames := [], fault := none } := by
  rw [split, if_neg long, ok]
  dsimp only
  split
  · rename_i e
    rw [nothing] at e
    cases e
  · rfl

end split

end Frame

namespace Decoder

variable {limits : Limits} {frames : List Frame}

/-! ### Lengths and bodies -/

/-- A length that is incomplete is held. -/
lemma feedFrom_length_short {got input : Bytes}
    (short : got.length + input.length < Frame.prefixSize) :
    feedFrom limits (.length got) input frames =
      ⟨⟨limits, .length (got ++ input)⟩, frames.reverse, none⟩ := by
  induction input generalizing got with
  | nil => simp [feedFrom]
  | cons b input ih =>
    rw [List.length_cons] at short
    have more : (got ++ [b]).length < Frame.prefixSize := by
      rw [List.length_append, List.length_singleton]
      omega
    simp only [feedFrom, push, if_pos more]
    rw [ih (by rw [List.length_append, List.length_singleton]; omega)]
    simp

/-- A length that is complete is judged. -/
lemma feedFrom_length {got size : Bytes} (whole : got.length + size.length = Frame.prefixSize)
    (some_ : size ≠ []) (input : Bytes) :
    feedFrom limits (.length got) (size ++ input) frames =
      match limits.check (Bytes.toNatBigEndian (got ++ size)) with
      | .error fault => ⟨⟨limits, .length []⟩, frames.reverse, some fault⟩
      | .ok () =>
        feedFrom limits (.body (Bytes.toNatBigEndian (got ++ size)) 0 []) input frames := by
  induction size generalizing got with
  | nil => exact absurd rfl some_
  | cons b size ih =>
    rw [List.length_cons] at whole
    simp only [List.cons_append, feedFrom, push, List.length_append, List.length_singleton]
    cases size with
    | nil =>
      simp only [List.length_nil] at whole
      rw [if_neg (by omega)]
      cases limits.check (Bytes.toNatBigEndian (got ++ [b])) <;> rfl
    | cons b' size =>
      rw [List.length_cons] at whole
      rw [if_pos (by omega)]
      have sizes : (got ++ [b]).length + (b' :: size).length = Frame.prefixSize := by
        rw [List.length_append, List.length_singleton, List.length_cons]
        omega
      have rest := ih sizes (by simp)
      rw [List.append_assoc] at rest
      exact rest

/-- The length at the front of an input that is long enough is judged. -/
lemma feedFrom_length_of_long {input : Bytes} (long : ¬ input.length < Frame.prefixSize) :
    feedFrom limits (.length []) input frames =
      match limits.check (Bytes.toNatBigEndian (input.take Frame.prefixSize)) with
      | .error fault => ⟨⟨limits, .length []⟩, frames.reverse, some fault⟩
      | .ok () =>
        feedFrom limits (.body (Bytes.toNatBigEndian (input.take Frame.prefixSize)) 0 [])
          (input.drop Frame.prefixSize) frames := by
  have size : (input.take Frame.prefixSize).length = Frame.prefixSize := by
    rw [List.length_take]
    omega
  have some_ : input.take Frame.prefixSize ≠ [] := by
    apply List.ne_nil_of_length_pos
    rw [size]
    decide
  have judged : feedFrom limits (.length [])
      (input.take Frame.prefixSize ++ input.drop Frame.prefixSize) frames = _ :=
    feedFrom_length (by simpa using size) some_ _
  rwa [List.take_append_drop] at judged

/-- A body that is incomplete is held. -/
lemma feedFrom_body_short {declared offset : Nat} {got input : Bytes}
    (short : offset + input.length < declared) :
    feedFrom limits (.body declared offset got) input frames =
      ⟨⟨limits, .body declared (offset + input.length) (input.reverse ++ got)⟩, frames.reverse,
        none⟩ := by
  induction input generalizing offset got with
  | nil => simp [feedFrom]
  | cons b input ih =>
    rw [List.length_cons] at short
    simp only [feedFrom, push]
    rw [if_pos (by omega)]
    simp only
    rw [ih (by omega), List.length_cons, List.reverse_cons, List.append_assoc, Nat.add_assoc,
      Nat.add_comm 1]
    rfl

/-- A body that is complete makes a frame. -/
lemma feedFrom_body {declared offset : Nat} {got body : Bytes} {frame : Frame}
    (whole : offset + body.length = declared) (some_ : body ≠ [])
    (made : frameOfBody (got.reverse ++ body) = some frame) (input : Bytes) :
    feedFrom limits (.body declared offset got) (body ++ input) frames =
      feedFrom limits (.length []) input (frame :: frames) := by
  induction body generalizing offset got with
  | nil => exact absurd rfl some_
  | cons b body ih =>
    rw [List.length_cons] at whole
    simp only [List.cons_append, feedFrom, push]
    cases body with
    | nil =>
      simp only [List.length_nil] at whole
      rw [if_neg (by omega)]
      simp only [List.reverse_cons, made, List.nil_append]
    | cons b' body =>
      rw [List.length_cons] at whole
      rw [if_pos (by omega)]
      exact ih (by simp only [List.length_cons]; omega) (by simp) (by simpa using made)

/-! ### Whole inputs -/

/-- The frame at the front of a buffer whose length passes the checks, where its body is complete.
-/
lemma decode?_eq_some {input : Bytes} (long : ¬ input.length < Frame.prefixSize)
    (ok : limits.check (Bytes.toNatBigEndian (input.take Frame.prefixSize)) = .ok ())
    (whole : ¬ input.length <
      Frame.prefixSize + Bytes.toNatBigEndian (input.take Frame.prefixSize)) :
    ∃ frame,
      Frame.decode? input = .ok (some (frame,
        Frame.prefixSize + Bytes.toNatBigEndian (input.take Frame.prefixSize))) ∧
      frameOfBody ((input.drop Frame.prefixSize).take
        (Bytes.toNatBigEndian (input.take Frame.prefixSize))) = some frame := by
  have positive := Limits.pos_of_check ok
  unfold Frame.decode?
  rw [if_neg long]
  dsimp only
  rw [if_neg (by omega), if_neg whole]
  cases body : (input.drop Frame.prefixSize).take
      (Bytes.toNatBigEndian (input.take Frame.prefixSize)) with
  | nil =>
    have := congrArg List.length body
    simp only [List.length_take, List.length_drop, List.length_nil] at this
    omega
  | cons tag payload => exact ⟨_, rfl, rfl⟩

/-- A frame of which bytes are missing is not decoded. -/
lemma decode?_eq_none {input : Bytes} (long : ¬ input.length < Frame.prefixSize)
    (ok : limits.check (Bytes.toNatBigEndian (input.take Frame.prefixSize)) = .ok ())
    (short : input.length <
      Frame.prefixSize + Bytes.toNatBigEndian (input.take Frame.prefixSize)) :
    Frame.decode? input = .ok none := by
  have positive := Limits.pos_of_check ok
  unfold Frame.decode?
  rw [if_neg long]
  dsimp only
  rw [if_neg (by omega), if_pos short]

/-- A decoder between two frames splits what it is fed. -/
lemma feedFrom_eq_split (limits : Limits) (input : Bytes) :
    (feedFrom limits (.length []) input []).frames = (Frame.split limits input).frames ∧
      (feedFrom limits (.length []) input []).fault = (Frame.split limits input).fault := by
  -- The induction is on the frames that are split off.
  induction input using Frame.split.induct limits with
  | case1 input short =>
    rw [Frame.split_short short, feedFrom_length_short (by simpa using short)]
    exact ⟨rfl, rfl⟩
  | case2 input long fault bad =>
    rw [Frame.split_bad long bad, feedFrom_length_of_long long, bad]
    exact ⟨rfl, rfl⟩
  | case3 input long ok frame size decoded ih =>
    have whole : ¬ input.length <
        Frame.prefixSize + Bytes.toNatBigEndian (input.take Frame.prefixSize) := by
      intro short
      rw [decode?_eq_none long ok short] at decoded
      cases decoded
    obtain ⟨frame', decoded', made⟩ := decode?_eq_some long ok whole
    rw [decoded] at decoded'
    simp only [Except.ok.injEq, Option.some.injEq, Prod.mk.injEq] at decoded'
    obtain ⟨rfl, rfl⟩ := decoded'
    rw [Frame.split_frame long ok decoded, feedFrom_length_of_long long, ok]
    rw [← List.drop_drop] at ih ⊢
    generalize Bytes.toNatBigEndian (input.take Frame.prefixSize) = declared at *
    have positive := Limits.pos_of_check ok
    have size : ((input.drop Frame.prefixSize).take declared).length = declared := by
      rw [List.length_take, List.length_drop]
      omega
    have body : feedFrom limits (.body declared 0 [])
        ((input.drop Frame.prefixSize).take declared ++
          (input.drop Frame.prefixSize).drop declared) [] = _ :=
      feedFrom_body (by omega) (List.ne_nil_of_length_pos (by omega)) (by simpa using made) _
    rw [List.take_append_drop] at body
    dsimp only
    rw [body, feedFrom_frames]
    exact ⟨congrArg (frame :: ·) ih.1, ih.2⟩
  | case4 input long ok nothing =>
    have short : input.length <
        Frame.prefixSize + Bytes.toNatBigEndian (input.take Frame.prefixSize) := by
      by_contra whole
      obtain ⟨frame, decoded, _⟩ := decode?_eq_some long ok whole
      exact nothing _ _ decoded
    rw [Frame.split_incomplete long ok (decode?_eq_none long ok short),
      feedFrom_length_of_long long, ok]
    dsimp only
    rw [feedFrom_body_short (by rw [List.length_drop]; omega)]
    exact ⟨rfl, rfl⟩

/-- An idle decoder splits what it is fed at once. -/
lemma feed_eq_split {d : Decoder} (idle : d.isIdle = true) (input : Bytes) :
    (d.feed input).frames = (Frame.split d.limits input).frames ∧
      (d.feed input).fault = (Frame.split d.limits input).fault := by
  unfold feed
  rw [isIdle_iff.1 idle]
  exact feedFrom_eq_split d.limits input

end Decoder

/-- A length that does not pass the checks is not the doing of the server. -/
lemma Frame.serverError?_split {limits : Decoder.Limits} {input : Bytes} {fault : Fault}
    (bad : (split limits input).fault = some fault) : fault.serverError? = none := by
  rw [← (Decoder.feedFrom_eq_split limits input).2] at bad
  obtain ⟨declared, refused⟩ := Decoder.feedFrom_fault bad
  exact Decoder.Limits.serverError?_of_check refused

end StoreClient
