import Mathlib
import StoreClient.Proofs.OneShot

/-!
# The bytes of frames are canonical

Frames that are written behind one another say themselves where each of them ends: both ways of
decoding give them back (`decodeAll_flatMap_bytes`, `Decoder.feed_flatMap_bytes`), whatever their
tags and payloads are. And there is only one way to write a frame: what is read off the front of a
buffer are the bytes that are written for it, and no frame begins with the bytes of another
(`encoding_canonical`).
-/

namespace StoreClient

open Decoder (Limits)

namespace Decoder

variable {limits : Limits} {frames : List Frame}

/-- A new decoder gives the frames back that it is fed the bytes of, if their lengths pass the
checks. -/
lemma feed_flatMap_bytes
    (ok : ∀ f ∈ frames, f.Fits ∧ limits.check f.declaredLength = .ok ()) :
    ({ limits } : Decoder).feed (frames.flatMap Frame.bytes) = ⟨{ limits }, frames, none⟩ := by
  induction frames with
  | nil => rfl
  | cons frame frames ih =>
    obtain ⟨first, others⟩ := List.forall_mem_cons.1 ok
    rw [List.flatMap_cons, feed_append (feed_bytes first.1 first.2), ih others]
    rfl

/-- A new decoder refuses a frame whose length does not pass the checks. -/
lemma feed_bytes_of_refused {frame : Frame} {fault : Fault} (fits : frame.Fits)
    (bad : limits.check frame.declaredLength = .error fault) (rest : Bytes) :
    ({ limits } : Decoder).feed (frame.bytes ++ rest) = ⟨{ limits }, [], some fault⟩ := by
  have front : (frame.bytes ++ rest).take Frame.prefixSize =
      Bytes.ofNatBigEndian frame.declaredLength := rfl
  have number : Bytes.toNatBigEndian (Bytes.ofNatBigEndian frame.declaredLength) =
      frame.declaredLength := Bytes.toNatBigEndian_ofNatBigEndian (Nat.lt_succ_of_le fits)
  have long : ¬ (frame.bytes ++ rest).length < Frame.prefixSize := by
    rw [List.length_append, Frame.length_bytes]
    exact Nat.not_lt.2 (Nat.le_add_right_of_le (Nat.le_add_right _ _))
  unfold feed
  rw [feedFrom_length_of_long long, front, number, bad]
  rfl

/-- A length within the maximum passes the checks where memory can be had. -/
lemma Limits.check_of_reservable {frame : Frame} (le : frame.declaredLength ≤ limits.maxLength)
    (had : frame.declaredLength ≤ limits.reservable) :
    limits.check frame.declaredLength = .ok () := by
  have positive : 0 < frame.declaredLength := Nat.lt_add_right _ Nat.one_pos
  unfold Limits.check
  rw [if_neg (by omega), if_neg (by omega), if_neg (by omega)]

/-- A length within the maximum is refused only for want of memory. -/
lemma Limits.check_of_not_reservable {frame : Frame}
    (le : frame.declaredLength ≤ limits.maxLength)
    (more : limits.reservable < frame.declaredLength) :
    limits.check frame.declaredLength =
      .error (.outOfMemory (.frameBuffer frame.declaredLength)) := by
  have positive : 0 < frame.declaredLength := Nat.lt_add_right _ Nat.one_pos
  unfold Limits.check
  rw [if_neg (by omega), if_neg (by omega), if_pos more]

/-- Of frames within the maximum a new decoder gives those before the first one for which no memory
can be had. -/
lemma feed_of_not_reservable {frame : Frame}
    (within : ∀ f ∈ frames, f.Fits ∧ f.declaredLength ≤ limits.maxLength)
    (first : frames.find? (limits.reservable < ·.declaredLength) = some frame) :
    ({ limits } : Decoder).feed (frames.flatMap Frame.bytes) =
      ⟨{ limits }, frames.takeWhile (·.declaredLength ≤ limits.reservable),
        some (.outOfMemory (.frameBuffer frame.declaredLength))⟩ := by
  obtain ⟨more, before, after, rfl, had⟩ := List.find?_eq_some_iff_append.1 first
  simp only [Bool.not_eq_true', decide_eq_false_iff_not, Nat.not_lt] at had
  have more' : limits.reservable < frame.declaredLength := of_decide_eq_true more
  have passes : ∀ f ∈ before, f.Fits ∧ limits.check f.declaredLength = .ok () := by
    intro f m
    obtain ⟨fits, le⟩ := within f (List.mem_append_left _ m)
    exact ⟨fits, Limits.check_of_reservable le (had f m)⟩
  obtain ⟨fits, le⟩ := within frame (by simp)
  have refused := feed_bytes_of_refused fits (Limits.check_of_not_reservable le more')
    (after.flatMap Frame.bytes)
  have taken : (before ++ frame :: after).takeWhile (·.declaredLength ≤ limits.reservable) =
      before := by
    rw [List.takeWhile_append_of_pos (by simpa using had), List.takeWhile_cons_of_neg,
      List.append_nil]
    simpa using more'
  rw [List.flatMap_append, List.flatMap_cons, feed_append (feed_flatMap_bytes passes), refused,
    taken, List.append_nil]

end Decoder

namespace Frame

/-- Decoding at once gives the frames back whose bytes it reads. -/
lemma decodeAll_flatMap_bytes {frames : List Frame} (fits : ∀ f ∈ frames, f.Fits) :
    decodeAll (frames.flatMap bytes) = { frames, rest := [], fault := none } := by
  induction frames with
  | nil => exact decodeAll_none rfl
  | cons frame frames ih =>
    obtain ⟨first, others⟩ := List.forall_mem_cons.1 fits
    have decoded := decode?_bytes_append first (frames.flatMap bytes)
    rw [List.flatMap_cons, decodeAll_some decoded, ← length_bytes, List.drop_left, ih others]

/-- Frames that fit are written behind what a buffer holds. -/
lemma foldlM_encodeInto {frames : List Frame} (fits : ∀ f ∈ frames, f.Fits) (buffer : Bytes) :
    frames.foldlM encodeInto buffer = .ok (buffer ++ frames.flatMap bytes) := by
  induction frames generalizing buffer with
  | nil =>
    rw [List.flatMap_nil, List.append_nil]
    rfl
  | cons frame frames ih =>
    obtain ⟨first, others⟩ := List.forall_mem_cons.1 fits
    have encoded : encodeInto buffer frame = .ok (buffer ++ frame.bytes) := by
      unfold encodeInto
      rw [encode_eq_ok_iff.2 ⟨first, rfl⟩]
      rfl
    rw [List.foldlM_cons, encoded, List.flatMap_cons, ← List.append_assoc]
    exact ih others _

/-- Frames within the maximum of a decoder that are written one behind the other, behind what a
buffer holds already, are given back by decoding at once and, where memory can be had for each of
them, by a new decoder, which is idle then; where it cannot, the decoder gives the frames before the
first such one. Whatever is decoded off the front of a buffer, its encoding is what was read. Frames
whose encodings are equal, or one the beginning of the other, are equal. -/
theorem encoding_canonical {limits : Limits} {frames : List Frame}
    (within : ∀ f ∈ frames, f.Fits ∧ f.declaredLength ≤ limits.maxLength) (buffer : Bytes) :
    (∃ stream,
      frames.foldlM encodeInto buffer = .ok (buffer ++ stream) ∧
        decodeAll stream = { frames, rest := [], fault := none } ∧
        let fed := ({ limits } : Decoder).feed stream
        ((∀ f ∈ frames, f.declaredLength ≤ limits.reservable) →
          fed = ⟨{ limits }, frames, none⟩ ∧ fed.decoder.isIdle = true ∧
            fed.events = frames.map .frame ++ [.needLength 0]) ∧
        ∀ f, frames.find? (limits.reservable < ·.declaredLength) = some f →
          fed = ⟨{ limits }, frames.takeWhile (·.declaredLength ≤ limits.reservable),
            some (.outOfMemory (.frameBuffer f.declaredLength))⟩) ∧
      (∀ input frame size, decode? input = .ok (some (frame, size)) →
        size ≤ input.length ∧ frame.encode = .ok (input.take size)) ∧
      ∀ (f g : Frame) (a b : Bytes), f.encode = .ok a → g.encode = .ok b → a <+: b → f = g := by
  refine ⟨⟨frames.flatMap bytes, ?_, ?_, ?_, ?_⟩, ?_, ?_⟩
  · exact foldlM_encodeInto (fun f m => (within f m).1) buffer
  · exact decodeAll_flatMap_bytes fun f m => (within f m).1
  · intro had
    have passes : ∀ f ∈ frames, f.Fits ∧ limits.check f.declaredLength = .ok () := by
      intro f m
      obtain ⟨fits, le⟩ := within f m
      exact ⟨fits, Limits.check_of_reservable le (had f m)⟩
    rw [Decoder.feed_flatMap_bytes passes]
    exact ⟨rfl, rfl, rfl⟩
  · intro f first
    exact Decoder.feed_of_not_reservable within first
  · intro input frame size decoded
    obtain ⟨rfl, _, fits, whole⟩ := decode?_sound decoded
    have front : input.take frame.size = frame.bytes := by
      rw [whole, ← length_bytes, List.take_left]
    refine ⟨(size_of_decode? decoded).2, ?_⟩
    rw [front]
    exact encode_eq_ok_iff.2 ⟨fits, rfl⟩
  · rintro f g a b ea eb ⟨rest, e⟩
    obtain ⟨ff, rfl⟩ := encode_eq_ok_iff.1 ea
    obtain ⟨gf, rfl⟩ := encode_eq_ok_iff.1 eb
    rw [← List.append_nil g.bytes] at e
    exact (bytes_append_inj ff gf e).1

/-- Two frames behind a byte that the buffer held, the second one as long as the decoder accepts. -/
theorem encoding_canonical_two :
    let limits : Limits := { maxLength := 3 }
    let frames : List Frame := [{ tag := 0 }, { tag := 255, payload := [0, 1] }]
    (∀ f ∈ frames, f.Fits ∧ f.declaredLength ≤ limits.maxLength) ∧
      frames.foldlM encodeInto [7] = .ok [7, 0, 0, 0, 1, 0, 0, 0, 0, 3, 255, 0, 1] ∧
      ({ limits } : Decoder).feed [0, 0, 0, 1, 0, 0, 0, 0, 3, 255, 0, 1] =
        ⟨{ limits }, frames, none⟩ := by
  intro limits frames
  have within : ∀ f ∈ frames, f.Fits ∧ f.declaredLength ≤ limits.maxLength := by decide
  obtain ⟨⟨stream, written, _, whole, _⟩, _⟩ := encoding_canonical within [7]
  have bytes : frames.foldlM encodeInto [7] = .ok [7, 0, 0, 0, 1, 0, 0, 0, 0, 3, 255, 0, 1] := rfl
  obtain rfl : stream = [0, 0, 0, 1, 0, 0, 0, 0, 3, 255, 0, 1] := by
    rw [bytes] at written
    exact (List.cons.inj (Except.ok.inj written)).2.symm
  exact ⟨within, bytes, (whole (by decide)).1⟩

end Frame

end StoreClient
