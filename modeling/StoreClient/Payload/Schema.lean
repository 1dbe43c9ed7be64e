import StoreClient.Bytes

/-!
# Schemas

A message type is described by data: its fields in ascending order, each with its number, the name
under which faults report it, its rule and the kind of its values. The values of a message type are
the records of its schema, one slot per field. What encodes, decodes or prints a message is one
function that follows the schema, and what is proved of it holds of every message type.
-/

namespace StoreClient.Payload

/-- How often a field occurs. -/
inductive Rule where
  /-- Always written; its default value stands in where it is missing. -/
  | required
  /-- Written when present. -/
  | optional
  /-- Written once per element. -/
  | repeated
  deriving DecidableEq, Repr

mutual

/-- The kinds of field values. -/
inductive Kind where
  | bytes
  | uint32
  | bool
  | sint64
  | enumeration
  | float32
  | message (name : String) (fields : Fields)

/-- The fields of a message type, in ascending order of their numbers. -/
inductive Fields where
  | nil
  | cons (number : Nat) (label : String) (rule : Rule) (kind : Kind) (rest : Fields)

end

/-- What a record holds for a field whose values are of type `α`. -/
def Rule.Slot : Rule → Type → Type
  | .required, α => α
  | .optional, α => Option α
  | .repeated, α => List α

mutual

/-- The values of a kind. A floating-point number is its IEEE-754 bits, so that every bit pattern is
a value; an enumeration is any 32-bit number, assigned or not. -/
def Kind.Val : Kind → Type
  | .bytes => Bytes
  | .uint32 => UInt32
  | .bool => Bool
  | .sint64 => Int64
  | .enumeration => Int32
  | .float32 => UInt32
  | .message _ fields => fields.Record

/-- The values of a message type with these fields. -/
def Fields.Record : Fields → Type
  | .nil => Unit
  | .cons _ _ rule kind rest => rule.Slot kind.Val × rest.Record

end

/-- The slot of a field that no input has set, given the default of its kind. -/
def Rule.empty {α : Type} : (rule : Rule) → α → rule.Slot α
  | .required, default => default
  | .optional, _ => (none : Option α)
  | .repeated, _ => ([] : List α)

mutual

/-- The default value of a kind. -/
def Kind.default : (k : Kind) → k.Val
  | .bytes => ([] : Bytes)
  | .uint32 => (0 : UInt32)
  | .bool => false
  | .sint64 => (0 : Int64)
  | .enumeration => (0 : Int32)
  | .float32 => (0 : UInt32)
  | .message _ fields => fields.empty

/-- The record in which every field is missing. -/
def Fields.empty : (fields : Fields) → fields.Record
  | .nil => ()
  | .cons _ _ rule kind rest => (rule.empty kind.default, rest.empty)

end

/-- Fields from a table. -/
def Fields.ofList : List (Nat × String × Rule × Kind) → Fields
  | [] => .nil
  | (number, label, rule, kind) :: rest => .cons number label rule kind (ofList rest)

/-- The numbers of the fields. -/
def Fields.numbers : Fields → List Nat
  | .nil => []
  | .cons number _ _ _ rest => number :: rest.numbers

/-- A message type. -/
structure Schema where
  name : String
  fields : Fields

/-- The values of a message type. -/
abbrev Schema.Record (s : Schema) : Type := s.fields.Record

/-- The kind of a field that holds such a message. -/
abbrev Schema.kind (s : Schema) : Kind := .message s.name s.fields

mutual

/-- Field numbers ascend and lie between 1 and 2^29 - 1, here and in every message inside. -/
def Kind.wellFormed : Kind → Bool
  | .message _ fields => fields.wellFormed 0
  | _ => true

/-- Field numbers ascend from above `last` and lie below 2^29, here and in every message inside. -/
def Fields.wellFormed : Fields → Nat → Bool
  | .nil, _ => true
  | .cons number _ _ kind rest, last =>
    decide (last < number) && decide (number < 0x20000000) && kind.wellFormed && rest.wellFormed number

end

/-- Whether the field numbers of a message type can be told apart on the wire. -/
def Schema.wellFormed (s : Schema) : Bool := s.fields.wellFormed 0

end StoreClient.Payload
