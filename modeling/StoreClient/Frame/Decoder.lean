import StoreClient.Frame

/-!
# Incremental decoding of frames

Bytes arrive in chunks that know nothing of frames. A `Decoder` is fed one byte after the other and
keeps what it has of the frame under way, so that chunks may end anywhere: how a byte sequence is
cut makes no difference to the frames, nor to where a fault is found.

A length is judged as soon as it is complete: zero has no room for a tag, more than the maximum is
refused, and then memory for the body has to be had. A fault leaves the decoder ready for a new
frame and discards the rest of the chunk.
-/

namespace StoreClient

namespace Decoder

/-- What a decoder accepts. -/
structure Limits where
  /-- The greatest declared length. -/
  maxLength : Nat
  /-- The greatest declared length for which memory can be had. -/
  reservable : Nat := 0x40000000
  deriving DecidableEq, Repr

/-- The frame under way. -/
inductive State where
  /-- Its length is incomplete: the bytes of the length so far, fewer than four. -/
  | length (got : Bytes)
  /-- Its body is incomplete: the declared length, how many bytes of it there are, and those bytes,
  latest first. -/
  | body (declared offset : Nat) (got : Bytes)
  deriving DecidableEq, Repr

/-- What a decoder reports. -/
inductive Event where
  /-- The length is incomplete. -/
  | needLength (got : Nat)
  /-- The body is incomplete. -/
  | needBody (got declared : Nat)
  /-- A frame is complete. -/
  | frame (frame : Frame)
  deriving DecidableEq, Repr

end Decoder

/-- A decoder between two bytes. -/
structure Decoder where
  limits : Decoder.Limits
  state : Decoder.State := .length []
  deriving DecidableEq, Repr

namespace Decoder

/-- A decoder that accepts declared lengths up to `maxLength`. -/
def ofMaxLength (maxLength : UInt32) : Decoder := { limits := { maxLength := maxLength.toNat } }

/-- The decoder without the frame under way. -/
def reset (d : Decoder) : Decoder := { d with state := .length [] }

/-- Whether no byte of a frame is held. -/
def isIdle (d : Decoder) : Bool := d.state == .length []

/-- The number of bytes missing from the body under way. -/
def remaining? (d : Decoder) : Option Nat :=
  match d.state with
  | .length _ => none
  | .body declared offset _ => some (declared - offset)

/-- What the decoder waits for. -/
def waiting (d : Decoder) : Event :=
  match d.state with
  | .length got => .needLength got.length
  | .body declared offset _ => .needBody offset declared

/-- Judges a declared length. -/
def Limits.check (limits : Limits) (declared : Nat) : Except Fault Unit :=
  if declared = 0 then .error (.format .noRoomForTag)
  else if limits.maxLength < declared then
    .error (.format (.frameTooLong declared limits.maxLength))
  else if limits.reservable < declared then .error (.outOfMemory (.frameBuffer declared))
  else .ok ()

/-- The frame with this body. -/
def frameOfBody : Bytes → Option Frame
  | [] => none
  | tag :: payload => some { tag, payload }

/-- Takes one byte: the state after it and the frame that it completes. -/
def push (limits : Limits) : State → UInt8 → Except Fault (State × Option Frame)
  | .length got, b =>
    let got := got ++ [b]
    if got.length < Frame.prefixSize then .ok (.length got, none)
    else do
      let declared := Bytes.toNatBigEndian got
      limits.check declared
      return (.body declared 0 [], none)
  | .body declared offset got, b =>
    if offset + 1 < declared then .ok (.body declared (offset + 1) (b :: got), none)
    else .ok (.length [], frameOfBody (b :: got).reverse)

/-- What feeding a chunk gives. -/
structure Fed where
  decoder : Decoder
  /-- The frames that the chunk completed, in order. -/
  frames : List Frame
  /-- The fault that ended it early. -/
  fault : Option Fault

/-- Takes the bytes of a chunk up to the first fault; `frames` holds the frames so far, latest
first. -/
def feedFrom (limits : Limits) : State → Bytes → (frames : List Frame) → Fed
  | s, [], frames => ⟨⟨limits, s⟩, frames.reverse, none⟩
  | s, b :: rest, frames =>
    match push limits s b with
    | .error fault => ⟨⟨limits, .length []⟩, frames.reverse, some fault⟩
    | .ok (s, none) => feedFrom limits s rest frames
    | .ok (s, some frame) => feedFrom limits s rest (frame :: frames)

/-- Takes a chunk. -/
def feed (d : Decoder) (chunk : Bytes) : Fed := feedFrom d.limits d.state chunk []

/-- The reports of a chunk: its frames, and, unless it ended in a fault, what is waited for next. -/
def Fed.events (fed : Fed) : List Event :=
  fed.frames.map .frame ++ (if fed.fault.isNone then [fed.decoder.waiting] else [])

end Decoder

end StoreClient
