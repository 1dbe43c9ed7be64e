/-!
# Decode faults

Why a payload could not be decoded, and where: the message fields that were being read, innermost
first, and the cause.
-/

namespace StoreClient.Payload

/-- How a value is laid out after its key. -/
inductive WireType where
  | varint | sixtyFourBit | lengthDelimited | startGroup | endGroup | thirtyTwoBit
  deriving DecidableEq, Repr

namespace WireType

/-- The number of the wire type, which is the last three bits of a key. -/
def code : WireType → Nat
  | varint => 0
  | sixtyFourBit => 1
  | lengthDelimited => 2
  | startGroup => 3
  | endGroup => 4
  | thirtyTwoBit => 5

/-- The wire type of a number; six and seven are not assigned. -/
def ofCode? : Nat → Option WireType
  | 0 => some varint
  | 1 => some sixtyFourBit
  | 2 => some lengthDelimited
  | 3 => some startGroup
  | 4 => some endGroup
  | 5 => some thirtyTwoBit
  | _ => none

/-- The name of the wire type in reports. -/
def name : WireType → String
  | varint => "Varint"
  | sixtyFourBit => "SixtyFourBit"
  | lengthDelimited => "LengthDelimited"
  | startGroup => "StartGroup"
  | endGroup => "EndGroup"
  | thirtyTwoBit => "ThirtyTwoBit"

/-- A wire type is known from its code. -/
@[simp] theorem ofCode?_code (w : WireType) : ofCode? w.code = some w := by
  cases w <;> rfl

/-- A code takes three bits of a key. -/
theorem code_lt (w : WireType) : w.code < 8 := by
  cases w <;> decide

end WireType

/-- What can be wrong with a payload. -/
inductive DecodeCause where
  /-- A base-128 number that ends too early, is longer than ten bytes or exceeds 64 bits. -/
  | invalidVarint
  /-- A key that does not fit 32 bits. -/
  | invalidKey (key : Nat)
  /-- A key with an unassigned wire type. -/
  | invalidWireType (code : Nat)
  /-- A key with field number zero. -/
  | zeroFieldNumber
  /-- A known field with another wire type than its own. -/
  | wireTypeMismatch (found expected : WireType)
  /-- A length that exceeds what is left of the input. -/
  | underflow
  /-- The end of a group that was not begun. -/
  | unexpectedEndGroup
  /-- A message whose fields run past its declared length. -/
  | lengthExceeded
  /-- Messages or groups nested too deeply. -/
  | recursionLimit
  deriving DecidableEq, Repr

/-- The wording of a cause. -/
def DecodeCause.message : DecodeCause → String
  | invalidVarint => "invalid varint"
  | invalidKey key => s!"invalid key value: {key}"
  | invalidWireType code => s!"invalid wire type value: {code}"
  | zeroFieldNumber => "invalid tag value: 0"
  | wireTypeMismatch found expected =>
    s!"invalid wire type: {found.name} (expected {expected.name})"
  | underflow => "buffer underflow"
  | unexpectedEndGroup => "unexpected end group tag"
  | lengthExceeded => "delimited length exceeded"
  | recursionLimit => "recursion limit reached"

/-- A field of a message type. -/
structure Location where
  message : String
  field : String
  deriving DecidableEq, Repr

/-- A payload that could not be decoded. -/
structure DecodeFault where
  /-- The fields that were being read, innermost first. -/
  path : List Location
  cause : DecodeCause
  deriving DecidableEq, Repr

namespace DecodeFault

/-- A fault that no field contains yet. -/
def ofCause (cause : DecodeCause) : DecodeFault := ⟨[], cause⟩

/-- The same fault, seen from the message that holds the field. -/
def within (fault : DecodeFault) (location : Location) : DecodeFault :=
  { fault with path := fault.path ++ [location] }

/-- The wording of a fault: its path, then its cause. -/
def message (fault : DecodeFault) : String :=
  "failed to decode Protobuf message: "
    ++ String.join (fault.path.map fun l => s!"{l.message}.{l.field}: ")
    ++ fault.cause.message

end DecodeFault

end StoreClient.Payload
