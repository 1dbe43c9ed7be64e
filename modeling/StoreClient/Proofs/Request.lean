import Mathlib
import StoreClient.Request
import StoreClient.Proofs.Frame
import StoreClient.Proofs.Response
import StoreClient.Proofs.RoundTrip

/-!
# Requests on the wire

The tag of a request says which message its payload is, so that whoever takes the frame of a request
can tell the request from it (`Request.ofFrame?_frame`), and which kind its answer is of
(`Request.responseKind_of_byte`). The headline is `Request.recoverable_of_fits`: nothing of a
request is lost on the wire, and the decoder that is registered with it takes the answers to it.
-/

namespace StoreClient

open Payload

namespace ResponseKind

/-- A kind of answer is known by the tag that it carries. -/
lemma find?_expectedTag (k : ResponseKind) :
    all.find? (·.expectedTag = k.expectedTag) = some k := by
  cases k <;> rfl

/-- A frame is refused for its tag exactly where this is not the expected one. -/
lemma decode_eq_unexpectedTag_iff {kind : ResponseKind} {tag : UInt8} {payload : Bytes} :
    kind.decode tag payload = .error (.format (.unexpectedTag kind.expectedTag.byte tag)) ↔
      tag ≠ kind.expectedTag.byte := by
  unfold decode
  split
  · rename_i expected
    constructor
    · intro e
      obtain ⟨cause, ⟨⟩⟩ := decodePayload_error e
    · exact fun other => absurd expected other
  · rename_i other
    exact ⟨fun _ => other, fun _ => rfl⟩

/-- The message types of answers can be told apart on the wire and are not nested too deeply. -/
lemma schema?_wellFormed {kind : ResponseKind} {s : Schema} (m : s ∈ kind.schema?) :
    s.wellFormed = true ∧ s.fields.nesting ≤ maxDepth := by
  cases kind with
  | ping | setClientId | delete | setBucketProps | resetBucketProps => cases m
  | serverInfo | getClientId | get | put | getBucketProps | search | counterUpdate | counterGet
  | listBuckets | listKeys | indexQuery | mapReduce =>
    cases m
    decide

/-- The encoding of a message is well formed. -/
lemma wellFormed_encode {kind : ResponseKind} {s : Schema} (m : s ∈ kind.schema?)
    (record : s.Record) (fits : (s.encode record).length < 2 ^ 64) :
    kind.WellFormed (s.encode record) := by
  intro s' m'
  obtain rfl : s = s' := Option.some.inj (m.symm.trans m')
  obtain ⟨wf, deep⟩ := schema?_wellFormed m
  exact ⟨record, Schema.decode_encode wf deep record fits⟩

end ResponseKind

namespace Request

/-! ### Tags -/

/-- The tag of an answer follows that of the request. -/
lemma expectedTag_byte (r : Request) : r.responseKind.expectedTag.byte = r.tag.byte + 1 := by
  cases r <;> rfl

/-- The tag of a request says of which kind its answer is. -/
lemma responseKind_of_byte {r r' : Request} (same : r.tag.byte = r'.tag.byte) :
    r.responseKind = r'.responseKind := by
  have bytes : r.responseKind.expectedTag.byte = r'.responseKind.expectedTag.byte := by
    rw [expectedTag_byte, expectedTag_byte, same]
  have tags : r.responseKind.expectedTag = r'.responseKind.expectedTag := by
    rw [← Option.some_inj, ← Tag.ofByte?_byte, bytes, Tag.ofByte?_byte]
  rw [← Option.some_inj, ← ResponseKind.find?_expectedTag, tags, ResponseKind.find?_expectedTag]

/-! ### Frames -/

/-- The request that is made of the message of a payload. -/
def ofPayload? {α : Type} [Message α] (make : α → Request) (payload : Bytes) : Option Request :=
  (Message.decode payload).toOption.map make

/-- The request that a frame carries. Its tag says which message the payload is; where it is none,
the payload is empty. -/
def ofFrame? (f : Frame) : Option Request :=
  match Tag.ofByte? f.tag with
  | some .pingReq => if f.payload = [] then some ping else none
  | some .serverInfoReq => if f.payload = [] then some serverInfo else none
  | some .getClientIdReq => if f.payload = [] then some getClientId else none
  | some .setClientIdReq => ofPayload? setClientId f.payload
  | some .getReq => ofPayload? get f.payload
  | some .putReq => ofPayload? put f.payload
  | some .delReq => ofPayload? delete f.payload
  | some .listBucketsReq => ofPayload? listBuckets f.payload
  | some .listKeysReq => ofPayload? listKeys f.payload
  | some .getBucketReq => ofPayload? getBucketProps f.payload
  | some .setBucketReq => ofPayload? setBucketProps f.payload
  | some .resetBucketReq => ofPayload? resetBucketProps f.payload
  | some .mapRedReq => ofPayload? mapReduce f.payload
  | some .indexReq => ofPayload? indexQuery f.payload
  | some .searchQueryReq => ofPayload? search f.payload
  | some .counterUpdateReq => ofPayload? counterUpdate f.payload
  | some .counterGetReq => ofPayload? counterGet f.payload
  | _ => none

/-- A message that is encoded is recovered from its payload. -/
lemma ofPayload?_encode {α : Type} [Message α] (listed : Message.schema α ∈ Message.catalogue)
    (make : α → Request) {m : α} (fits : (Message.encode m).length < 2 ^ 64) :
    ofPayload? make (Message.encode m) = some (make m) := by
  unfold ofPayload?
  rw [Message.decode_encode listed m fits]
  rfl

/-- A request can be told from its frame. -/
lemma ofFrame?_frame {r : Request} (fits : r.encode.frame.Fits) :
    ofFrame? r.encode.frame = some r := by
  have short : r.body.length < 2 ^ 64 := by
    change 1 + r.body.length ≤ Frame.maxDeclared at fits
    unfold Frame.maxDeclared at fits
    omega
  simp only [ofFrame?, encode, EncodedRequest.frame, Tag.ofByte?_byte]
  cases r with
  | ping | serverInfo | getClientId => rfl
  | setClientId m | get m | put m | delete m | listBuckets m | listKeys m | getBucketProps m
  | setBucketProps m | resetBucketProps m | mapReduce m | indexQuery m | search m | counterUpdate m
  | counterGet m => exact ofPayload?_encode (by simp [Message.catalogue, Message.schema]) _ short

/-- What can be told of a request from its bytes, and what the decoder takes that is registered with
it. -/
structure Recoverable (r : Request) : Prop where
  written : r.encode.frame.encode = .ok r.encode.frame.bytes
  /-- Its bytes are read as its frame, all of them. -/
  read :
    Frame.decode? r.encode.frame.bytes =
      .ok (some (r.encode.frame, r.encode.frame.bytes.length))
  recovered : ofFrame? r.encode.frame = some r
  /-- No other request has the same bytes. -/
  alone : ∀ r' : Request, r'.encode.frame.encode = .ok r.encode.frame.bytes → r' = r
  /-- Only frames with the next tag are not refused for their tags. -/
  tagged : ∀ (tag : UInt8) (payload : Bytes),
    r.encode.kind.decode tag payload =
        .error (.format (.unexpectedTag r.encode.kind.expectedTag.byte tag)) ↔
      tag ≠ r.encode.tag.byte + 1
  /-- Messages of the type of the answer are read as answers to this kind of request. -/
  answered : ∀ payload, r.encode.kind.WellFormed payload →
    ∃ response done,
      r.encode.kind.decode (r.encode.tag.byte + 1) payload = .ok (response, done) ∧
        r.encode.kind.Admits response
  /-- Whatever message of that type is encoded, its payload is well formed. -/
  encoded : ∀ s ∈ r.encode.kind.schema?, ∀ record : s.Record,
    (s.encode record).length < 2 ^ 64 → r.encode.kind.WellFormed (s.encode record)

/-- Every request that fits a frame can be recovered from its bytes, and the decoder that is
registered with it takes the answers to it. -/
theorem recoverable_of_fits {r : Request} (fits : r.encode.frame.Fits) : r.Recoverable := by
  have own := ofFrame?_frame fits
  have next : r.encode.kind.expectedTag.byte = r.encode.tag.byte + 1 := r.expectedTag_byte
  refine ⟨Frame.encode_eq_ok_iff.2 ⟨fits, rfl⟩, ?_, own, ?_, ?_, ?_, ?_⟩
  · have whole := Frame.decode?_bytes_append fits []
    rw [List.append_nil] at whole
    rw [whole, Frame.length_bytes]
  · intro r' same
    obtain ⟨fits', bytes⟩ := Frame.encode_eq_ok_iff.1 same
    obtain ⟨frames, _⟩ := Frame.bytes_append_inj fits fits' (congrArg (· ++ []) bytes)
    have own' := ofFrame?_frame fits'
    rw [← frames, own] at own'
    exact (Option.some.inj own').symm
  · intro tag payload
    rw [ResponseKind.decode_eq_unexpectedTag_iff, next]
  · intro payload wf
    obtain ⟨response, done, e⟩ := wf.exists_decodePayload
    refine ⟨response, done, ?_, ResponseKind.decodePayload_admits e⟩
    unfold ResponseKind.decode
    rw [if_pos next.symm, e]
  · exact fun s m record short => ResponseKind.wellFormed_encode m record short

/-- A query with a negative type, with fields that are present and empty or zero, and with a field
number of two bytes. -/
theorem recoverable_of_fits_indexQuery :
    let query : IndexReq :=
      { bucket := [], index := [0, 255], qtype := -1, key := some [], returnTerms := some false
        maxResults := some 0, timeout := some 4294967295, termRegex := some [42] }
    (indexQuery query).encode.frame.Fits ∧ (indexQuery query).Recoverable := by
  intro query
  have fits : (indexQuery query).encode.frame.Fits := by decide +kernel
  exact ⟨fits, recoverable_of_fits fits⟩

end Request

end StoreClient
