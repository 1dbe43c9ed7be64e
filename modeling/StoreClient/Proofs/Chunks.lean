import Mathlib
import StoreClient.Proofs.Conservation

/-!
# Chunks

A byte sequence reaches a decoder in chunks that know nothing of frames. A chunk may end anywhere: in
the length of a frame, between the length and the body, in the body, or behind many frames. However
the sequence is cut, the decoder in memory reports the same frames, meets the same first fault at the
same byte, and lies in memory as it would otherwise (`feedAll_eq_of_flatten_eq`).

The argument compares any cut with the whole sequence (`Layout.Holds.feedAll`), by induction on the
chunks: a layout holds the state of a decoder from chunk to chunk, and feeding this one on is feeding
it at once (`feed_append`), up to the first fault (`feed_append_of_fault`).
-/

namespace StoreClient

namespace Decoder

/-- What chunks leave that were fed in turn, up to the first fault. -/
structure Stream where
  layout : Layout
  /-- The frames in the buffer of the reports, in order. -/
  frames : List Frame
  /-- The first fault. -/
  fault : Option Fault
  /-- How many bytes had been taken at the first fault, with the byte that was refused. -/
  position : Option Nat
  deriving DecidableEq

namespace Layout

/-- Feeds chunks in turn, up to the first fault, and puts the reports into one buffer. -/
def feedAll (limits : Limits) : Layout → List Bytes → (buffer : List Event) → Option Stream
  | l, [], buffer =>
    some
      { layout := l
        frames := buffer.filterMap Event.frame?
        fault := none
        position := none }
  | l, chunk :: chunks, buffer => do
    let out ← l.feedInto limits chunk buffer
    match out.fault with
    | some fault =>
      return {
        layout := out.layout
        frames := out.events.filterMap Event.frame?
        fault := some fault
        position := some (chunk.length - out.rest.length) }
    | none =>
      let later ← feedAll limits out.layout chunks out.events
      return { later with position := later.position.map (chunk.length + ·) }

/-- Feeding chunks in turn leaves and reports what the decoder does that is fed all of them at once.
-/
lemma Holds.feedAll {limits : Limits} {l : Layout} {s : State} (h : l.Holds limits s)
    (chunks : List Bytes) (buffer : List Event) :
    let fed := Decoder.feed ⟨limits, s⟩ chunks.flatten
    ∃ l', l'.Holds limits fed.decoder.state ∧
      l.feedAll limits chunks buffer =
        some
          { layout := l'
            frames := buffer.filterMap Event.frame? ++ fed.frames
            fault := fed.fault
            position := refusedAt? ⟨limits, s⟩ chunks.flatten } := by
  intro fed
  -- The chunks before have been taken without fault, and `l` and `buffer` are what they have left.
  induction chunks generalizing l s buffer with
  | nil =>
    have nowhere : refusedAt? ⟨limits, s⟩ [] = none := by
      rw [← Option.isNone_iff_eq_none, ← Option.isSome_eq_false_iff, isSome_refusedAt?]
      rfl
    refine ⟨l, h, ?_⟩
    rw [List.flatten_nil, nowhere, Layout.feedAll]
    simp [fed, feed_nil]
  | cons chunk chunks ih =>
    obtain ⟨l', rest, taken, holds, position⟩ := h.feedInto chunk buffer
    have kept := feedFrom_limits limits s chunk []
    rcases first : Decoder.feed ⟨limits, s⟩ chunk with ⟨⟨limits', s'⟩, frames, fault⟩
    rw [show feedFrom limits s chunk [] = _ from first] at taken holds position kept
    obtain rfl : limits = limits' := kept.symm
    have reported := Fed.filterMap_events ⟨⟨limits, s'⟩, frames, fault⟩
    cases fault with
    | some fault =>
      have bad : (Decoder.feed ⟨limits, s⟩ chunk).fault = some fault := congrArg Fed.fault first
      have whole : fed = ⟨⟨limits, s'⟩, frames, some fault⟩ :=
        (feed_append_of_fault bad chunks.flatten).trans first
      obtain ⟨n, here, sum⟩ := position rfl
      have counted : chunk.length - rest.length = n := by omega
      rw [whole, List.flatten_cons, refusedAt?_append_of_fault bad, here, ← counted]
      refine ⟨l', holds, ?_⟩
      simp [Layout.feedAll, taken, reported]
    | none =>
      have whole : fed = _ := feed_append first chunks.flatten
      obtain ⟨l'', holds', later⟩ :=
        ih holds (buffer ++ Fed.events ⟨⟨limits, s'⟩, frames, none⟩)
      rw [whole, List.flatten_cons, refusedAt?_append (congrArg Fed.fault first), first]
      refine ⟨l'', holds', ?_⟩
      simp [Layout.feedAll, taken, later, reported]

end Layout

/-- After any calls, however the bytes that come next are cut into chunks, feeding these in turn
leaves the same layout, and it reports the same frames in the same order behind those in the buffer
and the same first fault at the same byte. These are the frames and the fault of the decoder that
is fed all the bytes at once, and the layout shows what that decoder does. Where there is a fault,
the bytes taken are those of the frames and then a length that does not pass the checks, whose last
byte was refused. -/
theorem feedAll_eq_of_flatten_eq (limits : Limits) (calls : List Call) (buffer : List Event)
    {chunks chunks' : List Bytes} (same : chunks.flatten = chunks'.flatten) :
    let d := Decoder.run { limits } calls
    let fed := d.feed chunks.flatten
    ∃ now stream, Account.run limits {} calls = some now ∧
      now.layout.feedAll limits chunks buffer = some stream ∧
      now.layout.feedAll limits chunks' buffer = some stream ∧
      stream.frames = buffer.filterMap Event.frame? ++ fed.frames ∧
      stream.fault = fed.fault ∧
      stream.layout.isIdle = fed.decoder.isIdle ∧
      stream.layout.remaining? = some fed.decoder.remaining? ∧
      stream.layout.held = fed.decoder.state.held ∧
      stream.position.isSome = stream.fault.isSome ∧
      ∀ n fault, stream.position = some n → stream.fault = some fault →
        ∃ size : Bytes, size.length = Frame.prefixSize ∧
          limits.check (Bytes.toNatBigEndian size) = .error fault ∧
          now.layout.held ++ chunks.flatten.take n = fed.frames.flatMap Frame.bytes ++ size := by
  intro d fed
  obtain ⟨now, ran, stands⟩ := (Account.stands_new limits).run calls
  have kept : d.limits = limits := Account.limits_run { limits } calls
  rcases reached : d with ⟨limits', s⟩
  obtain rfl : limits = limits' := by rw [← kept, reached]
  have holds : now.layout.Holds limits s := by
    have standing : now.Stands d := stands
    rw [reached] at standing
    exact standing.holds
  rw [show fed = Decoder.feed ⟨limits, s⟩ chunks.flatten from congrArg (feed · _) reached]
  obtain ⟨l, behind, taken⟩ := holds.feedAll chunks buffer
  obtain ⟨l', behind', taken'⟩ := holds.feedAll chunks' buffer
  rw [← same] at behind' taken'
  obtain rfl := behind.eq behind'
  refine ⟨now, _, ran, taken, taken', rfl, rfl, behind.isIdle, behind.remaining?, behind.held,
    isSome_refusedAt? .., fun n fault here bad => ?_⟩
  rw [holds.held]
  exact exists_size_of_refusedAt? holds.valid here bad

/-- Two cuts of the rest of a frame and of a length above the maximum, behind a call that began the
frame, with empty chunks and with cuts inside the lengths and the body, and the place of the fault.
-/
theorem feedAll_eq_of_flatten_eq_tooLong :
    let limits : Limits := { maxLength := 16 }
    let chunks : List Bytes := [[0], [], [2, 7], [8, 0, 0], [0, 17, 1, 2], [0]]
    let chunks' : List Bytes := [[], [0, 2, 7, 8, 0, 0, 0, 17, 1, 2, 0]]
    chunks.flatten = chunks'.flatten ∧
    ∃ now stream, Account.run limits {} [.feed [0, 0]] = some now ∧
      now.layout.feedAll limits chunks [] = some stream ∧
      now.layout.feedAll limits chunks' [] = some stream ∧
      stream =
        { layout := {}
          frames := [{ tag := 7, payload := [8] }]
          fault := some (.format (.frameTooLong 17 16))
          position := some 8 } := by
  intro limits chunks chunks'
  have same : chunks.flatten = chunks'.flatten := by decide
  obtain ⟨now, stream, ran, taken, taken', _⟩ :=
    feedAll_eq_of_flatten_eq limits [.feed [0, 0]] [] same
  have computed :
      ((Account.run limits {} [.feed [0, 0]]).bind fun now => now.layout.feedAll limits chunks []) =
        some
          { layout := {}
            frames := [{ tag := 7, payload := [8] }]
            fault := some (.format (.frameTooLong 17 16))
            position := some 8 } := by
    decide +kernel
  refine ⟨same, now, stream, ran, taken, taken', ?_⟩
  rw [ran] at computed
  exact Option.some.inj (taken.symm.trans computed)

end Decoder

end StoreClient
