import Mathlib
import StoreClient.Frame
import StoreClient.Response

/-!
# Reading the frames of an answer

A frame that comes in answer to a request either refuses it or is a fragment of the answer
(`Reading`). Reading a frame, and joining a fragment to those before it, fail with format faults only
(`ResponseKind.read_error`, `Response.merge_error`).

Each kind of request has answers of its own (`ResponseKind.Admits`). A frame reads as an answer of
the kind that it is read for and as no other (`ResponseKind.read_admits`); only a streaming answer
has a fragment that is not the last (`ResponseKind.read_last`), and the fragments of one answer can
always be joined (`ResponseKind.Admits.merge`). Joined in order they make the whole of the answer
(`Response.Whole.foldlM`), in which no element is lost (`Response.Whole.length`).
-/

namespace StoreClient

open Payload

/-- What a frame of an answer says. -/
inductive Reading where
  /-- The server refuses the request. -/
  | refusal (error : ServerError)
  /-- A fragment of the answer; `done` marks the last. -/
  | fragment (response : Response) (done : Bool)

/-- Reads a frame that comes in answer to a request of this kind. -/
def ResponseKind.read (kind : ResponseKind) (frame : Frame) : Except Fault Reading :=
  if frame.isError then (ServerError.decode frame.payload).map .refusal
  else (kind.decode frame.tag frame.payload).map fun decoded => .fragment decoded.1 decoded.2

/-- An error frame that cannot be read is a format fault. -/
lemma ServerError.decode_error {payload : Bytes} {fault : Fault}
    (e : decode payload = .error fault) : ∃ cause, fault = .format cause := by
  unfold decode at e
  split at e
  · cases e
  · rename_i cause _
    exact ⟨_, (Except.error.inj e).symm⟩

namespace ResponseKind

/-- A message that cannot be read is a format fault, whatever is made of one that can. -/
lemma payloadAs_bind_error {α β : Type} [Message α] {payload : Bytes} {f : α → β} {fault : Fault}
    (e : (payloadAs α payload >>= fun m => pure (f m)) = .error fault) :
    ∃ cause, fault = .format (.undecodable cause) := by
  unfold payloadAs at e
  cases d : Message.decode (α := α) payload with
  | error cause =>
    rw [d] at e
    exact ⟨_, (Except.error.inj e).symm⟩
  | ok m =>
    rw [d] at e
    cases e

/-- A payload that cannot be read is a format fault. -/
lemma decodePayload_error {kind : ResponseKind} {payload : Bytes} {fault : Fault}
    (e : kind.decodePayload payload = .error fault) :
    ∃ cause, fault = .format (.undecodable cause) := by
  cases kind with
  | ping | setClientId | delete | setBucketProps | resetBucketProps => cases e
  | serverInfo | getClientId | get | put | getBucketProps | search | counterUpdate | counterGet
  | listBuckets | listKeys | indexQuery | mapReduce => exact payloadAs_bind_error e

/-- A frame that cannot be read is a format fault. -/
lemma read_error {kind : ResponseKind} {frame : Frame} {fault : Fault}
    (e : kind.read frame = .error fault) : ∃ cause, fault = .format cause := by
  unfold read at e
  split at e
  · cases d : ServerError.decode frame.payload with
    | error cause =>
      rw [d] at e
      cases e
      exact ServerError.decode_error d
    | ok error =>
      rw [d] at e
      cases e
  · cases d : kind.decode frame.tag frame.payload with
    | error cause =>
      rw [d] at e
      cases e
      unfold decode at d
      split at d
      · obtain ⟨cause, rfl⟩ := decodePayload_error d
        exact ⟨_, rfl⟩
      · exact ⟨_, (Except.error.inj d).symm⟩
    | ok decoded =>
      rw [d] at e
      cases e

end ResponseKind

/-- Fragments that cannot be joined are a format fault. -/
lemma Response.merge_error {a b : Response} {fault : Fault} (e : a.merge b = .error fault) :
    ∃ cause, fault = .format cause := by
  unfold merge at e
  split at e
  · cases e
  · cases e
  · cases e
  · cases e
  · exact ⟨_, (Except.error.inj e).symm⟩

namespace ResponseKind

/-! ### The answers of each kind -/

/-- The answers, or fragments of one, to a request of each kind. -/
inductive Admits : ResponseKind → Response → Prop where
  | ping : Admits .ping .pong
  | serverInfo (info) : Admits .serverInfo (.serverInfo info)
  | getClientId (id) : Admits .getClientId (.clientId id)
  | setClientId : Admits .setClientId .ack
  | get (object) : Admits .get (.object object)
  | put (stored) : Admits .put (.stored stored)
  | delete : Admits .delete .ack
  | listBuckets (buckets) : Admits .listBuckets (.buckets buckets)
  | listKeys (keys) : Admits .listKeys (.keys keys)
  | getBucketProps (props) : Admits .getBucketProps (.bucketProps props)
  | setBucketProps : Admits .setBucketProps .ack
  | resetBucketProps : Admits .resetBucketProps .ack
  | mapReduce (phases) : Admits .mapReduce (.mapReduce phases)
  | indexQuery (results) : Admits .indexQuery (.index results)
  | search (found) : Admits .search (.search found)
  | counterUpdate (value) : Admits .counterUpdate (.counter value)
  | counterGet (value) : Admits .counterGet (.counter value)

/-- The message type of the payload of an answer; there is none where the payload carries nothing. -/
def schema? : ResponseKind → Option Schema
  | ping | setClientId | delete | setBucketProps | resetBucketProps => none
  | serverInfo => some ServerInfoResp.schema
  | getClientId => some GetClientIdResp.schema
  | get => some GetResp.schema
  | put => some PutResp.schema
  | getBucketProps => some GetBucketResp.schema
  | search => some SearchQueryResp.schema
  | counterUpdate => some CounterUpdateResp.schema
  | counterGet => some CounterGetResp.schema
  | listBuckets => some ListBucketsResp.schema
  | listKeys => some ListKeysResp.schema
  | indexQuery => some IndexResp.schema
  | mapReduce => some MapRedResp.schema

/-- The payload is a message of the type that an answer of this kind has, if it has one. -/
def WellFormed (kind : ResponseKind) (payload : Bytes) : Prop :=
  ∀ s ∈ kind.schema?, ∃ record, s.decode payload = .ok record

/-- A message that can be read, with what is made of it. -/
lemma payloadAs_bind_ok {α β : Type} [Message α] {payload : Bytes} {f : α → β} {b : β}
    (e : (payloadAs α payload >>= fun m => pure (f m)) = .ok b) : ∃ m, b = f m := by
  cases d : payloadAs α payload with
  | error cause =>
    rw [d] at e
    cases e
  | ok m =>
    rw [d] at e
    cases e
    exact ⟨m, rfl⟩

/-- A payload that is a message can be read, whatever is made of the message. -/
lemma exists_payloadAs_bind {α : Type} [Message α] {payload : Bytes} {f : α → Response × Bool}
    (wf : ∀ s ∈ some (Message.schema α), ∃ record, s.decode payload = .ok record) :
    ∃ r done, (payloadAs α payload >>= fun m => pure (f m)) = .ok (r, done) := by
  obtain ⟨record, d⟩ := wf _ rfl
  simp only [payloadAs, Message.decode, d]
  exact ⟨_, _, rfl⟩

/-- A payload reads as an answer of the kind that it is read for. -/
lemma decodePayload_admits {kind : ResponseKind} {payload : Bytes} {r : Response} {done : Bool}
    (e : kind.decodePayload payload = .ok (r, done)) : kind.Admits r := by
  cases kind with
  | ping | setClientId | delete | setBucketProps | resetBucketProps =>
    cases e
    constructor
  | serverInfo | getClientId | get | put | getBucketProps | search | counterUpdate | counterGet
  | listBuckets | listKeys | indexQuery | mapReduce =>
    obtain ⟨m, ⟨⟩⟩ := payloadAs_bind_ok e
    constructor

/-- An answer in one frame is complete with it. -/
lemma decodePayload_last {kind : ResponseKind} {payload : Bytes} {r : Response} {done : Bool}
    (e : kind.decodePayload payload = .ok (r, done)) (whole : kind.isStreaming = false) :
    done = true := by
  cases kind with
  | ping | setClientId | delete | setBucketProps | resetBucketProps =>
    cases e
    rfl
  | serverInfo | getClientId | get | put | getBucketProps | search | counterUpdate | counterGet =>
    obtain ⟨m, ⟨⟩⟩ := payloadAs_bind_ok e
    rfl
  | listBuckets | listKeys | indexQuery | mapReduce => cases whole

/-- A payload that is well formed can be read. -/
lemma WellFormed.exists_decodePayload {kind : ResponseKind} {payload : Bytes}
    (wf : kind.WellFormed payload) : ∃ r done, kind.decodePayload payload = .ok (r, done) := by
  cases kind with
  | ping | setClientId | delete | setBucketProps | resetBucketProps => exact ⟨_, _, rfl⟩
  | serverInfo | getClientId | get | put | getBucketProps | search | counterUpdate | counterGet
  | listBuckets | listKeys | indexQuery | mapReduce =>
    exact exists_payloadAs_bind wf

/-- Where a frame reads as a fragment, so does its payload. -/
lemma read_eq_fragment {kind : ResponseKind} {frame : Frame} {r : Response} {done : Bool}
    (e : kind.read frame = .ok (.fragment r done)) :
    kind.decodePayload frame.payload = .ok (r, done) := by
  unfold read at e
  split at e
  · cases d : ServerError.decode frame.payload with
    | error cause =>
      rw [d] at e
      cases e
    | ok error =>
      rw [d] at e
      cases e
  · cases d : kind.decode frame.tag frame.payload with
    | error cause =>
      rw [d] at e
      cases e
    | ok decoded =>
      rw [d] at e
      cases e
      unfold decode at d
      split at d
      · exact d
      · cases d

/-- A frame reads as an answer of the kind that it is read for. -/
lemma read_admits {kind : ResponseKind} {frame : Frame} {r : Response} {done : Bool}
    (e : kind.read frame = .ok (.fragment r done)) : kind.Admits r :=
  decodePayload_admits (read_eq_fragment e)

/-- Only a streaming answer has a fragment that is not the last. -/
lemma read_last {kind : ResponseKind} {frame : Frame} {r : Response} {done : Bool}
    (e : kind.read frame = .ok (.fragment r done)) (whole : kind.isStreaming = false) :
    done = true :=
  decodePayload_last (read_eq_fragment e) whole

/-- Fragments of one streaming answer can be joined, to an answer of the same kind. -/
lemma Admits.merge {kind : ResponseKind} {a b : Response} (ha : kind.Admits a) (hb : kind.Admits b)
    (stream : kind.isStreaming = true) : ∃ c, a.merge b = .ok c ∧ kind.Admits c := by
  cases ha with
  | listBuckets xs =>
    cases hb with
    | listBuckets ys => exact ⟨_, rfl, .listBuckets _⟩
  | listKeys xs =>
    cases hb with
    | listKeys ys => exact ⟨_, rfl, .listKeys _⟩
  | mapReduce xs =>
    cases hb with
    | mapReduce ys => exact ⟨_, rfl, .mapReduce _⟩
  | indexQuery x =>
    cases hb with
    | indexQuery y => exact ⟨_, rfl, .indexQuery _⟩
  | ping | serverInfo _ | getClientId _ | setClientId | get _ | put _ | delete | getBucketProps _
  | setBucketProps | resetBucketProps | search _ | counterUpdate _ | counterGet _ => cases stream

end ResponseKind

namespace Response

/-! ### Wholes -/

/-- The whole that fragments make: their elements in order, and of their continuations the last.
An answer that is no list is whole by itself. -/
inductive Whole : List Response → Response → Prop where
  | single (r : Response) : Whole [r] r
  | buckets (parts : List (List Bytes)) : Whole (parts.map .buckets) (.buckets parts.flatten)
  | keys (parts : List (List Bytes)) : Whole (parts.map .keys) (.keys parts.flatten)
  | mapReduce (parts : List (List MapReducePhase)) :
    Whole (parts.map .mapReduce) (.mapReduce parts.flatten)
  | index (parts : List IndexResults) :
    Whole (parts.map .index)
      (.index
        { keys := parts.flatMap (·.keys)
          results := parts.flatMap (·.results)
          continuation := (parts.filterMap (·.continuation)).getLast? })

/-- The last continuation of all is that of the last fragment, if it has one. -/
lemma getLast?_continuation (parts : List IndexResults) (page : IndexResults) :
    ((parts ++ [page]).filterMap (·.continuation)).getLast? =
      page.continuation.or (parts.filterMap (·.continuation)).getLast? := by
  cases e : page.continuation with
  | none => simp [e]
  | some continuation => simp [e]

/-- What is merged with a fragment is the whole of one fragment more. -/
lemma Whole.merge {parts : List Response} {a b c : Response} (w : Whole parts a)
    (e : a.merge b = .ok c) : Whole (parts ++ [b]) c := by
  cases w with
  | single =>
    unfold Response.merge at e
    split at e
    · rename_i xs ys
      cases e
      simpa using Whole.buckets [xs, ys]
    · rename_i xs ys
      cases e
      simpa using Whole.keys [xs, ys]
    · rename_i xs ys
      cases e
      simpa using Whole.mapReduce [xs, ys]
    · rename_i x y
      cases e
      have two := Whole.index ([] ++ [x] ++ [y])
      rw [getLast?_continuation, getLast?_continuation] at two
      simpa [IndexResults.append] using two
    · cases e
  | buckets parts =>
    cases b <;> cases e
    rename_i xs
    simpa using Whole.buckets (parts ++ [xs])
  | keys parts =>
    cases b <;> cases e
    rename_i xs
    simpa using Whole.keys (parts ++ [xs])
  | mapReduce parts =>
    cases b <;> cases e
    rename_i xs
    simpa using Whole.mapReduce (parts ++ [xs])
  | index parts =>
    cases b <;> cases e
    rename_i page
    have more := Whole.index (parts ++ [page])
    rw [getLast?_continuation] at more
    simpa [IndexResults.append] using more

/-- Fragments that are merged in order make the whole. -/
lemma Whole.foldlM {parts rest : List Response} {first whole : Response} (w : Whole parts first)
    (e : rest.foldlM Response.merge first = .ok whole) : Whole (parts ++ rest) whole := by
  induction rest generalizing parts first with
  | nil =>
    cases e
    simpa using w
  | cons r rest ih =>
    rw [List.foldlM_cons] at e
    cases m : first.merge r with
    | error fault =>
      rw [m] at e
      cases e
    | ok next =>
      rw [m] at e
      simpa using ih (w.merge m) e

/-- A whole has the elements of its fragments. -/
lemma Whole.length {parts : List Response} {whole : Response} (w : Whole parts whole) :
    whole.length = (parts.map Response.length).sum := by
  cases w with
  | single => simp
  | buckets parts | keys parts | mapReduce parts =>
    simp [Response.length, List.length_flatten, Function.comp_def]
  | index parts =>
    simp [Response.length, List.length_flatMap, List.sum_map_add, Function.comp_def]

end Response

end StoreClient
