import StoreClient.Payload.Schema
import StoreClient.Payload.Varint

/-!
# Encoding payloads

A record is written as its fields in ascending order. Every occurrence of a field is a key (field
number and wire type) followed by the value; byte strings and messages carry their length first.
`Schema.size` counts the bytes of an encoding without building it.
-/

namespace StoreClient.Payload

/-- The wire type of a kind. -/
def Kind.wireType : Kind → WireType
  | .bytes | .message .. => .lengthDelimited
  | .uint32 | .bool | .sint64 | .enumeration => .varint
  | .float32 => .thirtyTwoBit

/-- The number that a key spells. -/
def keyNumber (number : Nat) (wireType : WireType) : Nat := 8 * number + wireType.code

/-- A byte string behind its length. -/
def delimited (body : Bytes) : Bytes := Varint.encode body.length ++ body

/-- Every occurrence of a field, each written by `write`. -/
def Rule.encode {α : Type} (write : α → Bytes) : (rule : Rule) → rule.Slot α → Bytes
  | .required, (value : α) => write value
  | .optional, (slot : Option α) => slot.elim [] write
  | .repeated, (slot : List α) => slot.flatMap write

mutual

/-- A value as it stands behind its key. -/
def Kind.encode : (k : Kind) → k.Val → Bytes
  | .bytes, (b : Bytes) => delimited b
  | .uint32, (n : UInt32) => Varint.encode n.toNat
  | .bool, (b : Bool) => Varint.encode b.toNat
  | .sint64, (n : Int64) => Varint.encode (zigzag n.toInt)
  | .enumeration, (n : Int32) => Varint.encode (twosComplement n.toInt)
  | .float32, (bits : UInt32) => Bytes.ofNatLittleEndian bits.toNat
  | .message _ fields, r => delimited (fields.encode r)

/-- The fields of a record. -/
def Fields.encode : (fields : Fields) → fields.Record → Bytes
  | .nil, _ => []
  | .cons number _ rule kind rest, (slot, more) =>
    rule.encode
      (fun value => Varint.encode (keyNumber number kind.wireType) ++ kind.encode value) slot
      ++ rest.encode more

end

/-- The encoding of a message. -/
def Schema.encode (s : Schema) (r : s.Record) : Bytes := s.fields.encode r

/-- The size of a byte string of this length behind its length. -/
def delimitedSize (length : Nat) : Nat := Varint.size length + length

/-- The total size of the occurrences of a field, each of the size that `size` gives. -/
def Rule.size {α : Type} (size : α → Nat) : (rule : Rule) → rule.Slot α → Nat
  | .required, (value : α) => size value
  | .optional, (slot : Option α) => slot.elim 0 size
  | .repeated, (slot : List α) => (slot.map size).foldr (· + ·) 0

mutual

/-- The size of a value behind its key. -/
def Kind.size : (k : Kind) → k.Val → Nat
  | .bytes, (b : Bytes) => delimitedSize b.length
  | .uint32, (n : UInt32) => Varint.size n.toNat
  | .bool, _ => 1
  | .sint64, (n : Int64) => Varint.size (zigzag n.toInt)
  | .enumeration, (n : Int32) => Varint.size (twosComplement n.toInt)
  | .float32, _ => 4
  | .message _ fields, r => delimitedSize (fields.size r)

/-- The size of the fields of a record. -/
def Fields.size : (fields : Fields) → fields.Record → Nat
  | .nil, _ => 0
  | .cons number _ rule kind rest, (slot, more) =>
    rule.size (fun value => Varint.size (keyNumber number kind.wireType) + kind.size value) slot
      + rest.size more

end

/-- The size of the encoding of a message. -/
def Schema.size (s : Schema) (r : s.Record) : Nat := s.fields.size r

end StoreClient.Payload
