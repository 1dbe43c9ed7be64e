import StoreClient.Fault

/-!
# Frames

The unit of the wire protocol: a four-byte length, most significant byte first, a tag byte and a
payload. The length counts the tag and the payload, so it is one for a message without payload and
never zero.

`Frame.encode` writes one frame, `Frame.encodeInto` writes it behind what a buffer holds, and
`Frame.decode?` reads one off the front of a complete buffer.
-/

namespace StoreClient

/-- A tagged payload. -/
structure Frame where
  tag : UInt8
  payload : Bytes := []
  deriving DecidableEq, Repr, Inhabited

namespace Frame

/-- The size of the length prefix. -/
def prefixSize : Nat := 4

/-- The greatest length that a prefix can declare. -/
def maxDeclared : Nat := 0xFFFFFFFF

/-- The longest frame that is accepted unless configured otherwise. -/
def defaultMaxLength : UInt32 := 64 * 1024 * 1024

/-- Whether this is an error frame. -/
def isError (f : Frame) : Bool := f.tag == Tag.errorResp.byte

/-- The length that the prefix declares. -/
def declaredLength (f : Frame) : Nat := 1 + f.payload.length

/-- The number of bytes that the frame takes on the wire. -/
def size (f : Frame) : Nat := prefixSize + f.declaredLength

/-- The bytes of a frame whose length fits the prefix. -/
def bytes (f : Frame) : Bytes := Bytes.ofNatBigEndian f.declaredLength ++ f.tag :: f.payload

/-- The bytes of a frame; one that is too long for a prefix is refused. -/
def encode (f : Frame) : Except Fault Bytes :=
  if f.declaredLength ≤ maxDeclared then .ok f.bytes
  else .error (.format (.payloadTooLong f.payload.length))

/-- Appends the bytes of a frame to a buffer. -/
def encodeInto (buffer : Bytes) (f : Frame) : Except Fault Bytes := do
  return buffer ++ (← f.encode)

/-- The frame at the front of a buffer and the number of its bytes, or none if it is incomplete. -/
def decode? (input : Bytes) : Except Fault (Option (Frame × Nat)) :=
  if input.length < prefixSize then .ok none
  else
    let declared := Bytes.toNatBigEndian (input.take prefixSize)
    if declared = 0 then .error (.format .noRoomForTag)
    else if input.length < prefixSize + declared then .ok none
    else
      match (input.drop prefixSize).take declared with
      | [] => .ok none
      | tag :: payload => .ok (some ({ tag, payload }, prefixSize + declared))

/-- The frame as reports show it. -/
def describe (f : Frame) : String :=
  s!"WireFrame \x7b tag: \"{Tag.describe f.tag}\", len: {f.payload.length} \x7d"

end Frame

end StoreClient
