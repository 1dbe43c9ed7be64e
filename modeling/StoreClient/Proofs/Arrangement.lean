import Mathlib
import StoreClient.Proofs.Strict

/-!
# The order of fields

The fields of a message may stand in any order that keeps those of one number in theirs, and fields
that the schema does not declare may stand between them: it is the same message that is decoded
(`Message.decode_rearranged`). The same is so in every message inside.

A payload that holds the fields of a record in some such order (`Fields.Arranges`, a relation that
follows kinds and fields as the meanings of the grammar do) means the record
(`Fields.denotes_of_arranges`). And the fields of an encoding, moved about, are those of the record
(`Fields.arranges_of_rearranges`).
-/

namespace StoreClient

namespace Payload

/-- The values in a slot, in their order. -/
def Rule.values {α : Type} : (rule : Rule) → rule.Slot α → List α
  | .required, (v : α) => [v]
  | .optional, (slot : Option α) => slot.toList
  | .repeated, (slot : List α) => slot

mutual

/-- A field that holds a value: a scalar in one of its spellings, or a message with its fields
arranged in some way. -/
def Kind.Arranges : (k : Kind) → (depth : Nat) → Occurrence → k.Val → Prop
  | .message _ _, 0, _, _ => False
  | .message _ fields, depth + 1, o, (r : fields.Record) =>
    o.wireType = .lengthDelimited ∧
      ∃ body inner, Delimits o.value body ∧ Sequence inner body ∧ fields.Arranges depth inner r
  | k, _, o, v => k.Means o v

/-- The fields of a record in any order that keeps those of one number in theirs, and between them
well-formed fields that are not known. -/
def Fields.Arranges : (fields : Fields) → (depth : Nat) → List Occurrence → fields.Record → Prop
  | .nil, depth, os, _ => ∀ o ∈ os, Skippable depth o.number o.wireType o.value
  | .cons number _ rule kind rest, depth, os, (slot, more) =>
    List.Forall₂ (kind.Arranges depth) (behind number os) (rule.values slot) ∧
      rest.Arranges depth (besides number os) more

end

/-! ### What an arrangement means -/

/-- The values of a field, each from one occurrence, are what is in its slot. -/
lemma Rule.denotes_of_values {α : Type} {denotes : List Occurrence → α → Prop}
    {holds : Occurrence → α → Prop} (single : ∀ o v, holds o v → denotes [o] v) (rule : Rule)
    {os : List Occurrence} {slot : rule.Slot α} (h : List.Forall₂ holds os (rule.values slot)) :
    rule.Denotes denotes os slot := by
  cases rule with
  | required =>
    cases h with
    | cons first others =>
      cases others
      exact single _ _ first
  | optional =>
    change Option α at slot
    cases slot with
    | none =>
      cases h
      exact .inl ⟨rfl, rfl⟩
    | some v =>
      cases h with
      | cons first others =>
        cases others
        exact .inr ⟨v, List.cons_ne_nil _ _, single _ _ first, rfl⟩
  | «repeated» => exact h.imp single

mutual

/-- A field that holds a value, arranged in some way, means the value. -/
theorem Kind.denotes_of_arranges : (k : Kind) → (depth : Nat) → (o : Occurrence) → (v : k.Val) →
    k.Arranges depth o v → k.Denotes depth [o] v
  | .bytes, _, _, v, h | .uint32, _, _, v, h | .bool, _, _, v, h | .sint64, _, _, v, h
  | .enumeration, _, _, v, h | .float32, _, _, v, h => ⟨[v], .cons h .nil, rfl⟩
  | .message _ _, 0, _, _, nothing => nothing.elim
  | .message _ fields, depth + 1, o, (r : fields.Record), h => by
    obtain ⟨delimited, body, inner, delimits, sequence, arranges⟩ := h
    have means := fields.denotes_of_arranges depth inner r arranges
    exact ⟨[inner], .cons ⟨delimited, body, delimits, sequence⟩ .nil, by simpa using means⟩

/-- The fields of a record, arranged in some way, mean the record. -/
theorem Fields.denotes_of_arranges : (fields : Fields) → (depth : Nat) → (os : List Occurrence) →
    (r : fields.Record) → fields.Arranges depth os r → fields.Denotes depth os r
  | .nil, _, _, (), skippable => skippable
  | .cons number _ rule kind rest, depth, os, (_, more), ⟨first, others⟩ =>
    ⟨rule.denotes_of_values (kind.denotes_of_arranges depth) first,
      rest.denotes_of_arranges depth (besides number os) more others⟩

end

/-! ### The fields of an encoding -/

/-- The bytes of a field. -/
def Occurrence.encode (o : Occurrence) : Bytes :=
  Varint.encode (keyNumber o.number o.wireType) ++ o.value

/-- The fields of an encoding. -/
def Fields.occurrences : (fields : Fields) → fields.Record → List Occurrence
  | .nil, _ => []
  | .cons number _ rule kind rest, (slot, more) =>
    (rule.values slot).map (fun v => ⟨number, kind.wireType, kind.encode v⟩)
      ++ rest.occurrences more

/-- Fields moved about, those of one number in their order as before, and well-formed fields added
that are not known. -/
structure Fields.Rearranges (fields : Fields) (depth : Nat) (os os' : List Occurrence) : Prop where
  known : ∀ number ∈ fields.numbers, behind number os' = behind number os
  unknown : ∀ o ∈ os', o.number ∉ fields.numbers → Skippable depth o.number o.wireType o.value

/-- Fields whose numbers are allowed are a sequence in their encoding. -/
lemma sequence_encode {os : List Occurrence}
    (numbers : ∀ o ∈ os, 0 < o.number ∧ o.number < 0x20000000) :
    Sequence os (os.flatMap Occurrence.encode) := by
  induction os with
  | nil => exact .nil
  | cons o os ih =>
    obtain ⟨⟨positive, below⟩, others⟩ := List.forall_mem_cons.1 numbers
    exact .cons (spellsKey_encode o.number o.wireType positive below) (ih others)

/-- A slot is encoded value by value. -/
lemma Rule.encode_eq_flatMap {α : Type} (write : α → Bytes) (rule : Rule) (slot : rule.Slot α) :
    rule.encode write slot = (rule.values slot).flatMap write := by
  cases rule with
  | required => exact (List.append_nil _).symm
  | optional =>
    cases slot with
    | none => rfl
    | some v => exact (List.append_nil _).symm
  | «repeated» => rfl

/-- A record is encoded field by field. -/
theorem Fields.encode_eq_flatMap (fields : Fields) (r : fields.Record) :
    fields.encode r = (fields.occurrences r).flatMap Occurrence.encode := by
  cases fields with
  | nil => rfl
  | cons number _ rule kind rest =>
    obtain ⟨slot, more⟩ := r
    rw [Fields.encode, Fields.occurrences, List.flatMap_append, List.flatMap_map,
      rule.encode_eq_flatMap, rest.encode_eq_flatMap]
    rfl

/-- Only declared fields are written. -/
theorem Fields.number_mem_of_mem_occurrences : (fields : Fields) → (r : fields.Record) →
    ∀ o ∈ fields.occurrences r, o.number ∈ fields.numbers
  | .nil, (), _, m => absurd m List.not_mem_nil
  | .cons number _ rule kind rest, (slot, more), o, m => by
    obtain m | m := List.mem_append.1 m
    · obtain ⟨v, _, rfl⟩ := List.mem_map.1 m
      exact List.mem_cons_self
    · exact List.mem_cons_of_mem _ (rest.number_mem_of_mem_occurrences more o m)

/-- Declared numbers are above those before them, and they fit a key. -/
theorem Fields.number_bounds : (fields : Fields) → (last : Nat) → fields.wellFormed last = true →
    ∀ number ∈ fields.numbers, last < number ∧ number < 0x20000000
  | .nil, _, _, _, m => absurd m List.not_mem_nil
  | .cons first _ _ _ rest, last, wf, number, m => by
    simp only [Fields.wellFormed, Bool.and_eq_true, decide_eq_true_eq] at wf
    obtain ⟨⟨⟨above, below⟩, _⟩, others⟩ := wf
    obtain rfl | m := List.mem_cons.1 m
    · exact ⟨above, below⟩
    · obtain ⟨above', below'⟩ := rest.number_bounds first others number m
      exact ⟨above.trans above', below'⟩

/-- A field is no longer than the encoding that it is in. -/
lemma Fields.length_value_le {fields : Fields} {r : fields.Record} {o : Occurrence}
    (m : o ∈ fields.occurrences r) : o.value.length ≤ (fields.encode r).length := by
  rw [fields.encode_eq_flatMap]
  obtain ⟨before, others, e⟩ := List.append_of_mem m
  simp only [e, List.flatMap_append, List.flatMap_cons, List.length_append, Occurrence.encode]
  omega

/-- An encoding is the sequence of its fields. -/
lemma Fields.sequence_occurrences {fields : Fields} {last : Nat}
    (wf : fields.wellFormed last = true) (r : fields.Record) :
    Sequence (fields.occurrences r) (fields.encode r) := by
  rw [fields.encode_eq_flatMap]
  refine sequence_encode fun o m => ?_
  have declared := fields.number_mem_of_mem_occurrences r o m
  obtain ⟨above, below⟩ := fields.number_bounds last wf _ declared
  exact ⟨by omega, below⟩

/-! ### Rearranged encodings -/

section rearranges

variable {number other depth : Nat} {os os' : List Occurrence}

/-- A number stands in two lists of fields where it stands in either. -/
lemma behind_append : behind number (os ++ os') = behind number os ++ behind number os' :=
  List.filter_append _ _

/-- Where all fields have one number, all of them stand behind it. -/
lemma behind_eq_self (all : ∀ o ∈ os, o.number = number) : behind number os = os :=
  List.filter_eq_self.2 fun o m => decide_eq_true (all o m)

/-- Where no field has the number, none stands behind it. -/
lemma behind_eq_nil (none_ : ∀ o ∈ os, o.number ≠ number) : behind number os = [] :=
  List.filter_eq_nil_iff.2 fun o m => by simpa using none_ o m

/-- Leaving out the fields of one number leaves those of another as they are. -/
lemma behind_besides (ne : other ≠ number) :
    behind other (besides number os) = behind other os := by
  unfold behind besides
  rw [List.filter_filter]
  refine List.filter_congr fun o _ => ?_
  by_cases same : o.number = other
  · simp [same, ne]
  · simp [same]

variable {label : String} {rule : Rule} {kind : Kind} {rest : Fields} {slot : rule.Slot kind.Val}
  {more : rest.Record}

/-- Behind the first number stand the fields that were written for it. -/
lemma Fields.Rearranges.first (distinct : number ∉ rest.numbers)
    (h : (Fields.cons number label rule kind rest).Rearranges depth
      ((Fields.cons number label rule kind rest).occurrences (slot, more)) os) :
    behind number os = (rule.values slot).map fun v => ⟨number, kind.wireType, kind.encode v⟩ := by
  rw [h.known number List.mem_cons_self, Fields.occurrences, behind_append, behind_eq_self,
    behind_eq_nil, List.append_nil]
  · intro o m same
    exact distinct (same ▸ rest.number_mem_of_mem_occurrences more o m)
  · intro o m
    obtain ⟨v, _, rfl⟩ := List.mem_map.1 m
    rfl

/-- Besides the first number stand the fields that were written for others, moved about. -/
lemma Fields.Rearranges.others (distinct : number ∉ rest.numbers)
    (h : (Fields.cons number label rule kind rest).Rearranges depth
      ((Fields.cons number label rule kind rest).occurrences (slot, more)) os) :
    rest.Rearranges depth (rest.occurrences more) (besides number os) where
  known other m := by
    have ne : other ≠ number := fun same => distinct (same ▸ m)
    rw [behind_besides ne, h.known other (List.mem_cons_of_mem _ m), Fields.occurrences,
      behind_append, behind_eq_nil, List.nil_append]
    intro o m
    obtain ⟨v, _, rfl⟩ := List.mem_map.1 m
    exact ne.symm
  unknown o m unknown := by
    obtain ⟨m, ne⟩ := List.mem_filter.1 m
    refine h.unknown o m fun known => ?_
    obtain same | known := List.mem_cons.1 known
    · exact absurd same (of_decide_eq_true ne)
    · exact unknown known

end rearranges

/-- Of the encoding of a value just this is made. -/
lemma Kind.adds_encode (k : Kind) (wf : k.wellFormed = true) {depth : Nat}
    (deep : k.nesting ≤ depth) (number : Nat) (v : k.Val) (fits : (k.encode v).length < 2 ^ 64) :
    k.Adds depth ⟨number, k.wireType, k.encode v⟩ k.default v :=
  (k.parses_read depth number k.wireType k.default).of_reads (k.reads_encode wf depth deep v fits)

mutual

/-- An encoded value is one arrangement of it. -/
theorem Kind.arranges_encode : (k : Kind) → (wf : k.wellFormed = true) → (depth : Nat) →
    (deep : k.nesting ≤ depth) → (number : Nat) → (v : k.Val) →
    (fits : (k.encode v).length < 2 ^ 64) →
    k.Arranges depth ⟨number, k.wireType, k.encode v⟩ v
  | .bytes, wf, _, deep, number, v, fits => Kind.bytes.adds_encode wf deep number v fits
  | .uint32, wf, _, deep, number, v, fits => Kind.uint32.adds_encode wf deep number v fits
  | .bool, wf, _, deep, number, v, fits => Kind.bool.adds_encode wf deep number v fits
  | .sint64, wf, _, deep, number, v, fits => Kind.sint64.adds_encode wf deep number v fits
  | .enumeration, wf, _, deep, number, v, fits =>
    Kind.enumeration.adds_encode wf deep number v fits
  | .float32, wf, _, deep, number, v, fits => Kind.float32.adds_encode wf deep number v fits
  | .message _ _, _, 0, deep, _, _, _ => absurd deep (Nat.not_succ_le_zero _)
  | .message name fields, wf, depth + 1, deep, number, (r : fields.Record), fits => by
    have body : (fields.encode r).length < 2 ^ 64 := lt_of_delimited fits
    have arranges := fields.arranges_of_rearranges 0 wf depth (Nat.le_of_succ_le_succ deep) r body
      (fields.occurrences r)
    refine ⟨rfl, fields.encode r, fields.occurrences r, delimits_delimited body,
      Fields.sequence_occurrences wf r, arranges ⟨fun _ _ => rfl, ?_⟩⟩
    exact fun o m unknown => absurd (fields.number_mem_of_mem_occurrences r o m) unknown

/-- The fields of an encoding, moved about, are an arrangement of the record. -/
theorem Fields.arranges_of_rearranges : (fields : Fields) → (last : Nat) →
    (wf : fields.wellFormed last = true) → (depth : Nat) → (deep : fields.nesting ≤ depth) →
    (r : fields.Record) → (fits : (fields.encode r).length < 2 ^ 64) → (os : List Occurrence) →
    fields.Rearranges depth (fields.occurrences r) os → fields.Arranges depth os r
  | .nil, _, _, _, _, (), _, os, h => fun o m => h.unknown o m List.not_mem_nil
  | .cons number label rule kind rest, last, wf, depth, deep, (slot, more), fits, os, h => by
    have distinct : number ∉ rest.numbers := by
      simp only [Fields.wellFormed, Bool.and_eq_true] at wf
      intro m
      exact absurd (rest.number_bounds number wf.2 number m).1 (lt_irrefl _)
    -- A value is short enough for its length to be written, as it stands in the encoding.
    have short (v : kind.Val) (m : v ∈ rule.values slot) : (kind.encode v).length < 2 ^ 64 := by
      have written : (⟨number, kind.wireType, kind.encode v⟩ : Occurrence) ∈
          (Fields.cons number label rule kind rest).occurrences (slot, more) :=
        List.mem_append_left _ (List.mem_map_of_mem m)
      exact (Fields.length_value_le written).trans_lt fits
    simp only [Fields.wellFormed, Bool.and_eq_true] at wf
    simp only [Fields.nesting] at deep
    simp only [Fields.encode, List.length_append] at fits
    constructor
    · rw [h.first distinct, List.forall₂_map_left_iff, List.forall₂_same]
      intro v m
      exact kind.arranges_encode wf.1.2 depth (by omega) number v (short v m)
    · exact rest.arranges_of_rearranges number wf.2 depth (by omega) more (by omega) _
        (h.others distinct)

end

end Payload

namespace Message

open Payload

variable {α : Type} [Message α]

/-- A message is decoded from its fields in any order that keeps those of one number in theirs, with
any well-formed fields between them that its type does not declare; and so it is if the fields of
messages inside are arranged like that as well. -/
theorem decode_rearranged (listed : schema α ∈ catalogue) (m : α)
    (fits : (encode m).length < 2 ^ 64) :
    let fields := (schema α).fields
    let written := fields.occurrences (toRecord m)
    Sequence written (encode m) ∧
      (∀ os payload, fields.Rearranges maxDepth written os → Sequence os payload →
        decode payload = .ok m) ∧
      ∀ os payload, fields.Arranges maxDepth os (toRecord m) → Sequence os payload →
        decode payload = .ok m := by
  intro fields written
  have arranged (os : List Occurrence) (payload : Bytes)
      (arranges : fields.Arranges maxDepth os (toRecord m)) (sequence : Sequence os payload) :
      decode payload = .ok m := by
    rw [decode_eq_ok_iff, Schema.decode_eq_ok_iff]
    exact ⟨os, sequence, fields.denotes_of_arranges maxDepth os _ arranges⟩
  refine ⟨Fields.sequence_occurrences wellFormed _, ?_, arranged⟩
  intro os payload rearranges sequence
  refine arranged os payload ?_ sequence
  exact fields.arranges_of_rearranges 0 wellFormed maxDepth (nesting_le_of_mem_catalogue _ listed) _
    fits os rearranges

/-- The continuation of a listing before its results, with a group in between; and a result with its
value before its key, with an unknown number in between. -/
theorem decode_rearranged_indexResp :
    let m : IndexResp :=
      { results := [{ key := [1], value := some [2] }, {}], continuation := some [3] }
    schema IndexResp ∈ catalogue ∧ (encode m).length < 2 ^ 64 ∧
      decode [26, 1, 3, 75, 8, 5, 76, 18, 6, 10, 1, 1, 18, 1, 2, 18, 2, 10, 0] = .ok m ∧
      decode [26, 1, 3, 18, 11, 18, 1, 2, 29, 0, 0, 0, 0, 10, 1, 1, 18, 2, 10, 0] = .ok m := by
  intro m
  have listed : IndexResp.schema ∈ catalogue := by simp [catalogue]
  have fits : (encode m).length < 2 ^ 64 := by decide +kernel
  obtain ⟨_, outside, inside⟩ := decode_rearranged listed m fits
  refine ⟨listed, fits, ?_, ?_⟩
  · let group : Occurrence := ⟨9, .startGroup, [8, 5, 76]⟩
    let os : List Occurrence := [⟨3, .lengthDelimited, [1, 3]⟩, group,
      ⟨2, .lengthDelimited, [6, 10, 1, 1, 18, 1, 2]⟩, ⟨2, .lengthDelimited, [2, 10, 0]⟩]
    have declared : ∀ o ∈ os, o.number ∈ IndexResp.schema.fields.numbers ∨ o = group := by decide
    have number : Skippable 99 1 .varint [5] := ⟨5, .last (by decide), by decide, by decide⟩
    have balanced : Group (Skippable 99) 9 [8, 5, 76] :=
      .member (spellsKey_encode 1 .varint (by decide) (by decide)) (by decide) number
        (.ends (spellsKey_encode 9 .endGroup (by decide) (by decide)))
    refine outside os _ ⟨by decide, fun o known unknown => ?_⟩ (sequence_encode (by decide))
    obtain known | rfl := declared o known
    · exact absurd known unknown
    · exact balanced
  · let inner : List Occurrence := [⟨2, .lengthDelimited, delimited [2]⟩,
      ⟨3, .thirtyTwoBit, [0, 0, 0, 0]⟩, ⟨1, .lengthDelimited, delimited [1]⟩]
    let os : List Occurrence := [⟨3, .lengthDelimited, delimited [3]⟩,
      ⟨2, .lengthDelimited, delimited (inner.flatMap Occurrence.encode)⟩,
      ⟨2, .lengthDelimited, delimited [10, 0]⟩]
    have bytes (number : Nat) (b : Bytes) (short : b.length < 2 ^ 64) :
        Kind.bytes.Arranges 99 ⟨number, .lengthDelimited, delimited b⟩ b :=
      ⟨rfl, delimits_delimited short⟩
    have pair : Pair.schema.fields.Arranges 99 inner ([1], some [2], ()) := by
      refine ⟨.cons (bytes 1 [1] (by decide)) .nil, .cons (bytes 2 [2] (by decide)) .nil, ?_⟩
      intro o m
      obtain rfl : o = ⟨3, .thirtyTwoBit, [0, 0, 0, 0]⟩ := List.mem_singleton.1 m
      exact rfl
    have empty : Pair.schema.fields.Arranges 99 [⟨1, .lengthDelimited, delimited []⟩]
        ([], none, ()) :=
      ⟨.cons (bytes 1 [] (by decide)) .nil, .nil, List.forall_mem_nil _⟩
    have results : List.Forall₂ (Pair.schema.kind.Arranges 100) (behind 2 os)
        [([1], some [2], ()), ([], none, ())] :=
      .cons ⟨rfl, _, inner, delimits_delimited (by decide), sequence_encode (by decide), pair⟩
        (.cons ⟨rfl, [10, 0], _, delimits_delimited (by decide), sequence_encode (by decide), empty⟩
          .nil)
    have continuation : List.Forall₂ (Kind.bytes.Arranges 100) (behind 3 os) [[3]] :=
      .cons (bytes 3 [3] (by decide)) .nil
    exact inside os _ ⟨.nil, results, continuation, .nil, List.forall_mem_nil _⟩
      (sequence_encode (by decide))

end Message

end StoreClient
