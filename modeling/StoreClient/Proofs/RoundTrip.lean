import Mathlib
import StoreClient.Message.Catalogue
import StoreClient.Proofs.Reader

/-!
# Round trips

Decoding the encoding of a message gives the message back, and the size of a message is the number
of bytes of its encoding (`Message.decode_encode`). Both are proved once, for every schema whose
messages are not nested too deeply: `Kind.reads_encode` and `Fields.grows_encode` follow kinds and
fields down to the scalars, and so do `Kind.length_encode` and `Fields.length_encode`.

Between two fields of an encoding the record that is read has its slots up to some field, and is
empty behind it (`Fields.Grows`). That the numbers of the fields ascend is what keeps a later field
from setting an earlier slot.
-/

namespace StoreClient

namespace Payload

open Reader

mutual

/-- How many messages are nested in a value. -/
def Kind.nesting : Kind → Nat
  | .message _ fields => fields.nesting + 1
  | _ => 0

/-- How many messages are nested in the value of a field. -/
def Fields.nesting : Fields → Nat
  | .nil => 0
  | .cons _ _ _ kind rest => max kind.nesting rest.nesting

end

/-- Keys with their values, all of numbers above `last`, that turn one record into another. -/
inductive Fields.Grows (fields : Fields) (name : String) (depth last : Nat) :
    fields.Record → Bytes → fields.Record → Prop where
  | nil (r : fields.Record) :
    fields.Grows name depth last r [] r
  | cons {number : Nat} {wireType : WireType} {value rest : Bytes} {r s t : fields.Record} :
    last < number →
    number < 0x20000000 →
    Reads (fields.read name depth number wireType r) value s →
    fields.Grows name depth last s rest t →
    fields.Grows name depth last r
      (Varint.encode (keyNumber number wireType) ++ value ++ rest) t

section grows

variable {name label : String} {depth last number : Nat} {rule : Rule} {kind : Kind}
  {fields rest : Fields} {bytes bytes' : Bytes}

/-- A field of the first number is read into the first slot. -/
lemma Fields.read_first (wireType : WireType) (slot : rule.Slot kind.Val) (more : rest.Record) :
    (Fields.cons number label rule kind rest).read name depth number wireType (slot, more) =
      (do
        let slot ← located ⟨name, label⟩
          (rule.read kind.default (fun old => kind.read depth wireType old) slot)
        return (slot, more) : Reader (rule.Slot kind.Val × rest.Record)) := by
  rw [Fields.read]
  exact if_pos rfl

/-- A field of another number is read into the slots behind the first one. -/
lemma Fields.read_behind {other : Nat} (ne : other ≠ number) (wireType : WireType)
    (slot : rule.Slot kind.Val) (more : rest.Record) :
    (Fields.cons number label rule kind rest).read name depth other wireType (slot, more) =
      (do
        let more ← rest.read name depth other wireType more
        return (slot, more) : Reader (rule.Slot kind.Val × rest.Record)) := by
  rw [Fields.read]
  exact if_neg ne

/-- What two parts of a payload add, both together add. -/
lemma Fields.Grows.append {r s t : fields.Record} (h : fields.Grows name depth last r bytes s)
    (h' : fields.Grows name depth last s bytes' t) :
    fields.Grows name depth last r (bytes ++ bytes') t := by
  induction h with
  | nil r => exact h'
  | cons above below read _ ih =>
    rw [List.append_assoc]
    exact .cons above below read (ih h')

/-- A record grows as it is read, field by field. -/
lemma Fields.Grows.repeats {r s : fields.Record} (h : fields.Grows name depth last r bytes s) :
    Repeats (fun r => do
      let (number, wireType) ← readKey
      fields.read name depth number wireType r) r bytes s := by
  induction h with
  | nil r => exact .nil r
  | cons above below read _ ih =>
    refine .cons (by simp [Varint.encode_ne_nil]) ?_ ih
    exact (reads_key (by omega) below _).bind read

/-- What the fields behind the first one make of their part of a record, all the fields make of it.
-/
lemma Fields.Grows.behind {more more' : rest.Record}
    (h : rest.Grows name depth number more bytes more') (above : last < number)
    (slot : rule.Slot kind.Val) :
    (Fields.cons number label rule kind rest).Grows name depth last (slot, more) bytes
      (slot, more') := by
  induction h with
  | nil more => exact .nil _
  | cons later below read _ ih =>
    refine .cons (by omega) below ?_ ih
    rw [Fields.read_behind (Nat.ne_of_gt later)]
    exact read.map (slot, ·)

/-- An occurrence of the first field sets its slot. -/
lemma Fields.grows_occurrence {slot slot' : rule.Slot kind.Val} {more : rest.Record} {value : Bytes}
    (above : last < number) (below : number < 0x20000000)
    (read : Reads (rule.read kind.default (fun old => kind.read depth kind.wireType old) slot) value
      slot') :
    (Fields.cons number label rule kind rest).Grows name depth last (slot, more)
      (Varint.encode (keyNumber number kind.wireType) ++ value) (slot', more) := by
  rw [← List.append_nil (_ ++ _)]
  refine .cons above below ?_ (.nil _)
  rw [Fields.read_first]
  exact (read.located _).map (·, more)

/-- The occurrences of the first field set its slot, if its values are read back. -/
lemma Fields.grows_slot (above : last < number) (below : number < 0x20000000)
    (reads : ∀ v : kind.Val, (kind.encode v).length < 2 ^ 64 →
      Reads (kind.read depth kind.wireType kind.default) (kind.encode v) v)
    (slot : rule.Slot kind.Val) (more : rest.Record)
    (fits : (rule.encode (fun value =>
      Varint.encode (keyNumber number kind.wireType) ++ kind.encode value) slot).length < 2 ^ 64) :
    (Fields.cons number label rule kind rest).Grows name depth last (rule.empty kind.default, more)
      (rule.encode (fun value =>
        Varint.encode (keyNumber number kind.wireType) ++ kind.encode value) slot)
      (slot, more) := by
  cases rule with
  | required =>
    simp only [Rule.encode, List.length_append] at fits
    exact grows_occurrence above below (reads slot (by omega))
  | optional =>
    cases slot with
    | none => exact .nil _
    | some v =>
      simp only [Rule.encode, Option.elim, List.length_append] at fits
      exact grows_occurrence above below ((reads v (by omega)).map some)
  | «repeated» =>
    -- The elements before the ones to come are in the slot already.
    change List kind.Val at slot
    suffices h : ∀ before : List kind.Val,
        (Fields.cons number label .repeated kind rest).Grows name depth last (before, more)
          (Rule.encode (fun value =>
            Varint.encode (keyNumber number kind.wireType) ++ kind.encode value) .repeated slot)
          (before ++ slot, more) from h []
    induction slot with
    | nil =>
      intro before
      rw [List.append_nil]
      exact .nil _
    | cons v slot ih =>
      intro before
      simp only [Rule.encode, List.flatMap_cons, List.length_append] at fits ih ⊢
      have first : (Fields.cons number label .repeated kind rest).Grows name depth last
          (before, more) _ (before ++ [v], more) :=
        grows_occurrence above below ((reads v (by omega)).map (before ++ [·]))
      have others := ih (by omega) (before ++ [v])
      rw [List.append_assoc] at others
      exact first.append others

end grows

/-! ### Values are read back -/

/-- The wire type that is expected takes no bytes to check. -/
lemma reads_expect (wireType : WireType) : Reads (expect wireType wireType) [] () := by
  unfold expect
  rw [if_pos rfl]
  exact Reads.pure ()

/-- A varint behind its key is read back, as what is made of it. -/
lemma reads_varint {α : Type} (f : Nat → α) {n : Nat} (fits : n < 2 ^ 64) :
    Reads (do
      expect .varint .varint
      return f (← Varint.read)) (Varint.encode n) (f n) :=
  (reads_expect .varint).bind ((Varint.reads_encode fits).map f)

/-- The four bytes of a score are read as its bits. -/
lemma reads_float32 (depth : Nat) (old bits : UInt32) :
    Reads (Kind.float32.read depth .thirtyTwoBit old) (Bytes.ofNatLittleEndian bits.toNat)
      bits := by
  have digits := (reads_take (Bytes.ofNatLittleEndian bits.toNat)).map
    fun bytes => UInt32.ofNat (Bytes.toNatLittleEndian bytes)
  rw [Bytes.toNatLittleEndian_ofNatLittleEndian bits.toNat_lt, UInt32.ofNat_toNat] at digits
  exact (reads_expect .thirtyTwoBit).bind digits

/-- What stands behind its length is shorter than both together. -/
lemma lt_of_delimited {body : Bytes} (fits : (delimited body).length < 2 ^ 64) :
    body.length < 2 ^ 64 := by
  rw [delimited, List.length_append] at fits
  omega

mutual

/-- The encoding of a value is read back. -/
theorem Kind.reads_encode : (k : Kind) → (wf : k.wellFormed = true) → (depth : Nat) →
    (deep : k.nesting ≤ depth) → (v : k.Val) → (fits : (k.encode v).length < 2 ^ 64) →
    Reads (k.read depth k.wireType k.default) (k.encode v) v
  | .bytes, _, _, _, (_ : Bytes), fits =>
    (reads_expect .lengthDelimited).bind (reads_delimited (lt_of_delimited fits))
  | .uint32, _, _, _, (n : UInt32), _ => by
    have number := reads_varint UInt32.ofNat (n := n.toNat) (by have := n.toNat_lt; omega)
    rwa [UInt32.ofNat_toNat] at number
  | .bool, _, _, _, (b : Bool), _ => by
    have number := reads_varint (fun n => decide (n ≠ 0)) (n := b.toNat) (by cases b <;> decide)
    rwa [show decide (b.toNat ≠ 0) = b by cases b <;> rfl] at number
  | .sint64, _, _, _, (n : Int64), _ => by
    have number := reads_varint (fun k => Int64.ofInt (unzigzag k)) (zigzag_lt n)
    rwa [unzigzag_zigzag, Int64.ofInt_toInt] at number
  | .enumeration, _, _, _, (n : Int32), _ => by
    have number := reads_varint Int32.ofNat (twosComplement_lt n.toInt)
    rwa [int32_ofNat_twosComplement] at number
  | .float32, _, depth, _, (bits : UInt32), _ => reads_float32 depth _ bits
  | .message name fields, wf, 0, deep, v, fits => by
    simp [Kind.nesting] at deep
  | .message name fields, wf, depth + 1, deep, (r : fields.Record), fits => by
    simp only [Kind.nesting] at deep
    have body : (fields.encode r).length < 2 ^ 64 := lt_of_delimited fits
    have inside := fields.grows_encode name 0 wf depth (by omega) r body
    exact (reads_expect .lengthDelimited).bind (inside.repeats.within body)

/-- The encoding of a record is read back into the empty one, field by field. -/
theorem Fields.grows_encode : (fields : Fields) → (name : String) → (last : Nat) →
    (wf : fields.wellFormed last = true) → (depth : Nat) → (deep : fields.nesting ≤ depth) →
    (r : fields.Record) → (fits : (fields.encode r).length < 2 ^ 64) →
    fields.Grows name depth last fields.empty (fields.encode r) r
  | .nil, _, _, _, _, _, (), _ => .nil _
  | .cons number label rule kind rest, name, last, wf, depth, deep, (slot, more), fits => by
    simp only [Fields.wellFormed, Bool.and_eq_true, decide_eq_true_eq] at wf
    obtain ⟨⟨⟨above, below⟩, wfKind⟩, wfRest⟩ := wf
    simp only [Fields.nesting] at deep
    simp only [Fields.encode, List.length_append] at fits
    have first := fun v => kind.reads_encode wfKind depth (by omega) v
    have others := rest.grows_encode name number wfRest depth (by omega) more (by omega)
    exact (Fields.grows_slot above below first slot _ (by omega)).append (others.behind above slot)

end

/-- The encoding of a message is decoded to the message. -/
theorem Schema.decode_encode {s : Schema} (wf : s.wellFormed = true)
    (deep : s.fields.nesting ≤ maxDepth) (r : s.Record) (fits : (s.encode r).length < 2 ^ 64) :
    s.decode (s.encode r) = .ok r := by
  have fields := (s.fields.grows_encode s.name 0 wf maxDepth deep r fits).repeats
  have whole := fields.repeatUntil (s.encode r).length le_rfl []
  rw [List.append_nil] at whole
  exact Reader.run_eq_ok whole

/-! ### Sizes -/

/-- Bytes with their length before them are as long as was reckoned. -/
lemma length_delimited (body : Bytes) : (delimited body).length = delimitedSize body.length := by
  rw [delimited, List.length_append, Varint.length_encode, delimitedSize]

/-- The occurrences of a field have the size of their encodings, if every one has. -/
lemma Rule.length_encode {α : Type} {write : α → Bytes} {size : α → Nat}
    (each : ∀ a, (write a).length = size a) (rule : Rule) (slot : rule.Slot α) :
    (rule.encode write slot).length = rule.size size slot := by
  cases rule with
  | required => exact each slot
  | optional =>
    cases slot with
    | none => rfl
    | some a => exact each a
  | «repeated» =>
    change List α at slot
    show (slot.flatMap write).length = (slot.map size).foldr (· + ·) 0
    induction slot with
    | nil => rfl
    | cons a slot ih =>
      rw [List.flatMap_cons, List.length_append, each, ih]
      rfl

mutual

/-- The size of a value is that of its encoding. -/
theorem Kind.length_encode : (k : Kind) → (v : k.Val) → (k.encode v).length = k.size v
  | .bytes, v => length_delimited v
  | .uint32, (n : UInt32) => Varint.length_encode n.toNat
  | .bool, (b : Bool) => by cases b <;> rfl
  | .sint64, (n : Int64) => Varint.length_encode (zigzag n.toInt)
  | .enumeration, (n : Int32) => Varint.length_encode (twosComplement n.toInt)
  | .float32, _ => rfl
  | .message _ fields, (r : fields.Record) =>
    (length_delimited _).trans (congrArg delimitedSize (fields.length_encode r))

/-- The size of the fields of a record is that of their encoding. -/
theorem Fields.length_encode : (fields : Fields) → (r : fields.Record) →
    (fields.encode r).length = fields.size r
  | .nil, () => rfl
  | .cons number _ rule kind rest, (slot, more) => by
    have each (v : kind.Val) :
        (Varint.encode (keyNumber number kind.wireType) ++ kind.encode v).length =
          Varint.size (keyNumber number kind.wireType) + kind.size v := by
      rw [List.length_append, Varint.length_encode, kind.length_encode]
    rw [Fields.encode, Fields.size, List.length_append, rule.length_encode each,
      rest.length_encode]

end

end Payload

namespace Message

open Payload

/-- No message type of the protocol is nested too deeply to be read. -/
lemma nesting_le_of_mem_catalogue : ∀ s ∈ catalogue, s.fields.nesting ≤ maxDepth := by decide

variable {α : Type} [Message α]

/-- A message of the catalogue is decoded from its encoding. -/
lemma decode_encode (listed : schema α ∈ catalogue) (m : α) (fits : (encode m).length < 2 ^ 64) :
    decode (encode m) = .ok m := by
  have back := Schema.decode_encode (wellFormed (α := α)) (nesting_le_of_mem_catalogue _ listed)
    (toRecord m) fits
  unfold decode encode
  rw [back]
  exact congrArg Except.ok (ofRecord_toRecord m)

/-- Every message of every type of the protocol is decoded from its encoding, and its size is the
number of bytes of that. A payload of 2^64 bytes or more has no length on the wire, nor an address
in memory. -/
theorem encode_round_trip (listed : schema α ∈ catalogue) (m : α)
    (fits : (encode m).length < 2 ^ 64) :
    decode (encode m) = .ok m ∧ size m = (encode m).length := by
  constructor
  · exact decode_encode listed m fits
  · exact ((schema α).fields.length_encode (toRecord m)).symm

/-- An object with links and pairs inside, two messages deep, and with fields that are present and
empty or zero. -/
theorem encode_round_trip_getResp :
    let pair : Pair := { key := [1, 2], value := some [] }
    let link : Link := { bucket := some [], tag := some [255] }
    let content : Content :=
      { value := [0], links := [link, {}], lastMod := some 0, usermeta := [pair, pair]
        deleted := some false }
    let m : GetResp := { content := [content, {}], vclock := some [], unchanged := some true }
    schema GetResp ∈ catalogue ∧ (encode m).length < 2 ^ 64 ∧
      decode (encode m) = .ok m ∧ size m = (encode m).length := by
  have listed : GetResp.schema ∈ catalogue := by simp [catalogue]
  exact ⟨listed, by decide +kernel, encode_round_trip listed _ (by decide +kernel)⟩

end Message

end StoreClient
