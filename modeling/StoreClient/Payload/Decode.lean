import StoreClient.Payload.Schema
import StoreClient.Payload.Varint

/-!
# Decoding payloads

A payload is a sequence of fields in any order. The last occurrence of a scalar wins, repeated
fields collect their occurrences in order, a message that occurs again is merged into what it was, a
missing field has its default, and a field that the schema does not declare is skipped.

While the fields of an inner message are read, lengths are held against the whole input only. That
the fields end where the inner message ends is checked afterwards, so that a field that runs past
that end is reported at the field that holds the message.
-/

namespace StoreClient.Payload

open Reader

/-- How many messages and groups may be nested. -/
def maxDepth : Nat := 100

/-- Reads a key: its field number and wire type. -/
def readKey : Reader (Nat × WireType) := do
  let key ← Varint.read
  if 0x100000000 ≤ key then
    fail (.invalidKey key)
  else
    match WireType.ofCode? (key % 8) with
    | none => fail (.invalidWireType (key % 8))
    | some wireType =>
      if key / 8 = 0 then
        fail .zeroFieldNumber
      else
        return (key / 8, wireType)

/-- Refuses another wire type than the expected one. -/
def expect (expected found : WireType) : Reader Unit :=
  if found = expected then pure () else fail (.wireTypeMismatch found expected)

/-- Reads a length and as many bytes. -/
def readDelimited : Reader Bytes := do
  take (← Varint.read)

/-- Reads a length and then, again and again, one more piece of a value, until that many bytes are
used up. As every piece takes a byte, the bytes left bound their number. -/
def readWithin {α : Type} (read : α → Reader α) (a : α) : Reader α := do
  let length ← Varint.read
  let left ← Reader.left
  if left < length then
    fail .underflow
  else
    let a ← repeatUntil (left - length) read left a
    if (← Reader.left) ≠ left - length then
      fail .lengthExceeded
    else
      return a

/-- Skips the members of group `number`, each with `skipMember`, and the end of the group. As every
member takes a byte, a group that is still open when the fuel is used up has run out of input. -/
def skipGroup (skipMember : Nat → WireType → Reader Unit) (number : Nat) :
    (fuel : Nat) → Reader Unit
  | 0 => fail .invalidVarint
  | fuel + 1 => do
    let (inner, wireType) ← readKey
    if wireType = .endGroup then
      if inner = number then
        return ()
      else
        fail .unexpectedEndGroup
    else
      skipMember inner wireType
      skipGroup skipMember number fuel

/-- Skips the value of field `number`. -/
def skipField : (depth number : Nat) → WireType → Reader Unit
  | 0, _, _ => fail .recursionLimit
  | depth + 1, number, wireType =>
    match wireType with
    | .varint => do let _ ← Varint.read
    | .sixtyFourBit => skip 8
    | .thirtyTwoBit => skip 4
    | .lengthDelimited => do skip (← Varint.read)
    | .startGroup => do skipGroup (skipField depth) number ((← left) + 1)
    | .endGroup => fail .unexpectedEndGroup

/-- One more occurrence of a field: `read` turns the value so far into the new one, and an element
of a repeated field starts from the default. -/
def Rule.read {α : Type} (default : α) (read : α → Reader α) :
    (rule : Rule) → rule.Slot α → Reader (rule.Slot α)
  | .required, (value : α) => read value
  | .optional, (slot : Option α) => do
    return some (← read (slot.getD default))
  | .repeated, (slot : List α) => do
    return slot ++ [← read default]

mutual

/-- Reads a value behind a key of the given wire type; `old` is the value so far. -/
def Kind.read : (k : Kind) → (depth : Nat) → WireType → (old : k.Val) → Reader k.Val
  | .bytes, _, wireType, _ => do
    expect .lengthDelimited wireType
    readDelimited
  | .uint32, _, wireType, _ => do
    expect .varint wireType
    return UInt32.ofNat (← Varint.read)
  | .bool, _, wireType, _ => do
    expect .varint wireType
    return decide ((← Varint.read) ≠ 0)
  | .sint64, _, wireType, _ => do
    expect .varint wireType
    return Int64.ofInt (unzigzag (← Varint.read))
  | .enumeration, _, wireType, _ => do
    expect .varint wireType
    return Int32.ofNat (← Varint.read)
  | .float32, _, wireType, _ => do
    expect .thirtyTwoBit wireType
    return UInt32.ofNat (Bytes.toNatLittleEndian (← take 4))
  | .message name fields, depth, wireType, old => do
    expect .lengthDelimited wireType
    match depth with
    | 0 => fail .recursionLimit
    | depth + 1 =>
      readWithin (fun r => do
        let (number, wireType) ← readKey
        fields.read name depth number wireType r) old

/-- Reads the value of field `number` of message `name` into a record. -/
def Fields.read : (fields : Fields) → (name : String) → (depth number : Nat) → WireType →
    fields.Record → Reader fields.Record
  | .nil, _, depth, number, wireType, _ => do
    skipField depth number wireType
    return ()
  | .cons n label rule kind rest, name, depth, number, wireType, (slot, more) =>
    if number = n then do
      let slot ← located ⟨name, label⟩
        (rule.read kind.default (fun old => kind.read depth wireType old) slot)
      return (slot, more)
    else do
      let more ← rest.read name depth number wireType more
      return (slot, more)

end

/-- Reads one field, key and value, into a record. -/
def Schema.readField (s : Schema) (r : s.Record) : Reader s.Record := do
  let (number, wireType) ← readKey
  s.fields.read s.name maxDepth number wireType r

/-- The message that a payload encodes. -/
def Schema.decode (s : Schema) (payload : Bytes) : Except DecodeFault s.Record :=
  (repeatUntil 0 s.readField payload.length s.fields.empty).run payload

end StoreClient.Payload
