import Mathlib
import StoreClient.Payload.Decode
import StoreClient.Payload.Encode

/-!
# The grammar of payloads

Which byte strings are payloads, and what they mean, said without a reader. A payload is a sequence
of fields, each of them a key and the bytes of a value (`Sequence`). The value of a message holds
just such a sequence, and its length is the length of that; no field of it lies outside.

What a payload means is said field by field of the schema (`Fields.Denotes`): a field gathers what
stands behind its number, wherever in the payload that is. The last one of several scalars counts,
a repeated field has them all in their order, and several messages are one message that has the
fields of each of them. What stands behind other numbers is well formed (`Skippable`) and means
nothing.
-/

namespace StoreClient.Payload

/-! ### Numbers, keys and lengths -/

/-- Groups of seven bits that spell a number, least significant group first; all but the last are
marked by their high bit. -/
inductive Varint.Groups : Bytes → Nat → Prop where
  | last {b : UInt8} :
    b < 128 →
    Groups [b] b.toNat
  | more {b : UInt8} {rest : Bytes} {n : Nat} :
    128 ≤ b →
    Groups rest n →
    Groups (b :: rest) (b.toNat - 128 + 128 * n)

/-- Bytes that spell a number of 64 bits: no more than ten, the last of which may spell zeros. -/
structure Varint.Spells (b : Bytes) (n : Nat) : Prop where
  groups : Groups b n
  short : b.length ≤ maxLength
  fits : n < 2 ^ 64

/-- The key of a field. -/
structure SpellsKey (b : Bytes) (number : Nat) (wireType : WireType) : Prop where
  spells : Varint.Spells b (keyNumber number wireType)
  positive : 0 < number
  below : number < 0x20000000

/-- A length and as many bytes. -/
def Delimits (b body : Bytes) : Prop :=
  ∃ length, Varint.Spells length body.length ∧ b = length ++ body

/-! ### Values that are skipped -/

/-- The members of a group, each of which is a key and a value, and the key that ends the group. -/
inductive Group (member : Nat → WireType → Bytes → Prop) (number : Nat) : Bytes → Prop where
  | ends {key : Bytes} :
    SpellsKey key number .endGroup →
    Group member number key
  | member {inner : Nat} {wireType : WireType} {key value rest : Bytes} :
    SpellsKey key inner wireType →
    wireType ≠ .endGroup →
    member inner wireType value →
    Group member number rest →
    Group member number (key ++ value ++ rest)

/-- A well-formed value of a field that is not known, in which groups are nested at most `depth`
deep, itself included. -/
def Skippable : (depth number : Nat) → WireType → Bytes → Prop
  | 0, _, _, _ => False
  | _ + 1, _, .varint, b => ∃ n, Varint.Spells b n
  | _ + 1, _, .sixtyFourBit, b => b.length = 8
  | _ + 1, _, .lengthDelimited, b => ∃ body, Delimits b body
  | depth + 1, number, .startGroup, b => Group (Skippable depth) number b
  | _ + 1, _, .endGroup, _ => False
  | _ + 1, _, .thirtyTwoBit, b => b.length = 4

/-! ### Fields -/

/-- A field as it stands in a payload, without the bytes of its key. -/
structure Occurrence where
  number : Nat
  wireType : WireType
  value : Bytes
  deriving DecidableEq

/-- The bytes of fields, each of them behind its key. -/
inductive Sequence : List Occurrence → Bytes → Prop where
  | nil :
    Sequence [] []
  | cons {o : Occurrence} {os : List Occurrence} {key rest : Bytes} :
    SpellsKey key o.number o.wireType →
    Sequence os rest →
    Sequence (o :: os) (key ++ o.value ++ rest)

/-- What stands behind a number. -/
def behind (number : Nat) (os : List Occurrence) : List Occurrence :=
  os.filter (·.number = number)

/-- What stands behind other numbers. -/
def besides (number : Nat) (os : List Occurrence) : List Occurrence :=
  os.filter (·.number ≠ number)

/-! ### Meanings -/

/-- What is made of a varint. -/
def Counts {α : Type} (f : Nat → α) (o : Occurrence) (v : α) : Prop :=
  o.wireType = .varint ∧ ∃ n, Varint.Spells o.value n ∧ v = f n

/-- What a single scalar means. -/
def Kind.Means : (k : Kind) → Occurrence → k.Val → Prop
  | .bytes, o, (v : Bytes) => o.wireType = .lengthDelimited ∧ Delimits o.value v
  | .uint32, o, (v : UInt32) => Counts UInt32.ofNat o v
  | .bool, o, (v : Bool) => Counts (fun n => decide (n ≠ 0)) o v
  | .sint64, o, (v : Int64) => Counts (fun n => Int64.ofInt (unzigzag n)) o v
  | .enumeration, o, (v : Int32) => Counts Int32.ofNat o v
  | .float32, o, (v : UInt32) =>
    o.wireType = .thirtyTwoBit ∧ o.value.length = 4 ∧
      v = UInt32.ofNat (Bytes.toNatLittleEndian o.value)
  | .message _ _, _, _ => False

/-- Of several scalars the last one counts; where there is none, the default does. -/
def Last {α : Type} (means : Occurrence → α → Prop) (default : α) (os : List Occurrence) (v : α) :
    Prop :=
  ∃ vs, List.Forall₂ means os vs ∧ v = vs.getLastD default

/-- What a field has in its slot, by what stands behind its number. -/
def Rule.Denotes {α : Type} (denotes : List Occurrence → α → Prop) :
    (rule : Rule) → List Occurrence → rule.Slot α → Prop
  | .required, os, (v : α) => denotes os v
  | .optional, os, (slot : Option α) =>
    (os = [] ∧ slot = none) ∨ ∃ v, os ≠ [] ∧ denotes os v ∧ slot = some v
  | .repeated, os, (slot : List α) => List.Forall₂ (fun o v => denotes [o] v) os slot

mutual

/-- What values of a kind mean that stand behind one number, with so many messages and groups inside
one another at most. Several messages have the fields of each of them. -/
def Kind.Denotes : (k : Kind) → (depth : Nat) → List Occurrence → k.Val → Prop
  | .message _ fields, 0, os, (r : fields.Record) => os = [] ∧ r = fields.empty
  | .message _ fields, depth + 1, os, (r : fields.Record) =>
    ∃ bodies : List (List Occurrence),
      List.Forall₂
        (fun o inner => o.wireType = .lengthDelimited ∧
          ∃ body, Delimits o.value body ∧ Sequence inner body)
        os bodies ∧
        fields.Denotes depth bodies.flatten r
  | k, _, os, v => Last k.Means k.default os v

/-- What fields mean as a message. -/
def Fields.Denotes : (fields : Fields) → (depth : Nat) → List Occurrence → fields.Record → Prop
  | .nil, depth, os, _ => ∀ o ∈ os, Skippable depth o.number o.wireType o.value
  | .cons number _ rule kind rest, depth, os, (slot, more) =>
    rule.Denotes (kind.Denotes depth) (behind number os) slot ∧
      rest.Denotes depth (besides number os) more

end

/-! ### Acceptable fields -/

mutual

/-- An acceptable value of a kind: of the wire type of the kind, and for a message one whose bytes
are acceptable fields to the last one. -/
def Kind.Accepts : (k : Kind) → (depth : Nat) → Occurrence → Prop
  | .message _ _, 0, _ => False
  | .message _ fields, depth + 1, o =>
    o.wireType = .lengthDelimited ∧
      ∃ body inner, Delimits o.value body ∧ Sequence inner body ∧
        ∀ i ∈ inner, fields.Accepts depth i
  | k, _, o => ∃ v, k.Means o v

/-- An acceptable field: its value is one of its kind, or well formed if the field is not known. -/
def Fields.Accepts : (fields : Fields) → (depth : Nat) → Occurrence → Prop
  | .nil, depth, o => Skippable depth o.number o.wireType o.value
  | .cons number _ _ kind rest, depth, o =>
    if o.number = number then kind.Accepts depth o else rest.Accepts depth o

end

/-- A payload whose fields are acceptable. -/
def Schema.Accepts (s : Schema) (payload : Bytes) : Prop :=
  ∃ os, Sequence os payload ∧ ∀ o ∈ os, s.fields.Accepts maxDepth o

/-- A payload of a message type and the message that it means. -/
def Schema.Denotes (s : Schema) (payload : Bytes) (r : s.Record) : Prop :=
  ∃ os, Sequence os payload ∧ s.fields.Denotes maxDepth os r

end StoreClient.Payload
