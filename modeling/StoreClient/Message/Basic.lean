import StoreClient.Payload.Decode
import StoreClient.Payload.Encode

/-!
# Message types

A message type is a structure whose values correspond one to one to the records of a schema. The
correspondence carries encoding, decoding and every law of the two over from schemas to structures.
-/

namespace StoreClient

open Payload

/-- A type of messages with its schema. -/
class Message (α : Type) where
  schema : Schema
  /-- The fields of a message, in the order of the schema. -/
  toRecord : α → schema.Record
  /-- The message with the given fields. -/
  ofRecord : schema.Record → α
  ofRecord_toRecord : ∀ m, ofRecord (toRecord m) = m
  toRecord_ofRecord : ∀ r, toRecord (ofRecord r) = r
  wellFormed : schema.wellFormed = true

namespace Message

variable {α : Type} [Message α]

/-- The payload of a message. -/
def encode (m : α) : Bytes := (schema α).encode (toRecord m)

/-- The number of bytes in the payload of a message. -/
def size (m : α) : Nat := (schema α).size (toRecord m)

/-- The message that a payload encodes. -/
def decode (payload : Bytes) : Except DecodeFault α :=
  ((schema α).decode payload).map ofRecord

/-- The kind of a field that holds a message of type `α`. -/
abbrev kind (α : Type) [Message α] : Kind := (schema α).kind

/-- A list of messages is known from the records of all of them. -/
theorem map_ofRecord_toRecord (l : List α) : (l.map toRecord).map ofRecord = l := by
  simp [Function.comp_def, ofRecord_toRecord]

/-- A list of records is known from the messages of all of them. -/
theorem map_toRecord_ofRecord (l : List (schema α).Record) :
    (l.map (ofRecord (α := α))).map toRecord = l := by
  simp [Function.comp_def, toRecord_ofRecord]

end Message

end StoreClient
