import StoreClient.Fault
import StoreClient.Message.Catalogue

/-!
# Responses

What a call answers, and how the frames of an answer become it. A `ResponseKind` is fixed when the
request is encoded: it names the tag that the answer must carry, reads one frame of it
(`ResponseKind.decode`) and says whether that frame was the last. The fragments of a streaming
answer are joined by `Response.merge`, in the order in which they arrive.
-/

namespace StoreClient

open Payload

/-- The kinds of answers, one for each kind of request. -/
inductive ResponseKind where
  | ping | serverInfo | getClientId | setClientId | get | put | delete | listBuckets | listKeys
  | getBucketProps | setBucketProps | resetBucketProps | mapReduce | indexQuery | search
  | counterUpdate | counterGet
  deriving DecidableEq, Repr

namespace ResponseKind

/-- Every kind. -/
def all : List ResponseKind :=
  [ping, serverInfo, getClientId, setClientId, get, put, delete, listBuckets, listKeys,
   getBucketProps, setBucketProps, resetBucketProps, mapReduce, indexQuery, search, counterUpdate,
   counterGet]

/-- The tag of a successful answer. -/
def expectedTag : ResponseKind → Tag
  | ping => .pingResp
  | serverInfo => .serverInfoResp
  | getClientId => .getClientIdResp
  | setClientId => .setClientIdResp
  | get => .getResp
  | put => .putResp
  | delete => .delResp
  | listBuckets => .listBucketsResp
  | listKeys => .listKeysResp
  | getBucketProps => .getBucketResp
  | setBucketProps => .setBucketResp
  | resetBucketProps => .resetBucketResp
  | mapReduce => .mapRedResp
  | indexQuery => .indexResp
  | search => .searchQueryResp
  | counterUpdate => .counterUpdateResp
  | counterGet => .counterGetResp

/-- Whether the answer may span several frames. -/
def isStreaming : ResponseKind → Bool
  | listBuckets | listKeys | mapReduce | indexQuery => true
  | _ => false

/-- The name of the kind in reports. -/
def name : ResponseKind → String
  | ping => "Ping"
  | serverInfo => "ServerInfo"
  | getClientId => "GetClientId"
  | setClientId => "SetClientId"
  | get => "Get"
  | put => "Put"
  | delete => "Delete"
  | listBuckets => "ListBuckets"
  | listKeys => "ListKeys"
  | getBucketProps => "GetBucketProps"
  | setBucketProps => "SetBucketProps"
  | resetBucketProps => "ResetBucketProps"
  | mapReduce => "MapReduce"
  | indexQuery => "IndexQuery"
  | search => "Search"
  | counterUpdate => "CounterUpdate"
  | counterGet => "CounterGet"

end ResponseKind

/-- The matches of a secondary-index query. -/
structure IndexResults where
  /-- The matching keys, where no terms were asked for. -/
  keys : List Bytes := []
  /-- Term and key of every match, where terms were asked for. -/
  results : List Pair := []
  /-- What to ask for the next page with. -/
  continuation : Option Bytes := none
  deriving DecidableEq, Repr, Inhabited

/-- A piece of the output of a map-reduce phase. -/
structure MapReducePhase where
  phase : Option UInt32
  data : Bytes
  deriving DecidableEq, Repr, Inhabited

/-- An answer, or a fragment of one. -/
inductive Response where
  | pong
  | ack
  | serverInfo (info : ServerInfoResp)
  | clientId (id : Bytes)
  | object (object : GetResp)
  | stored (stored : PutResp)
  | buckets (buckets : List Bytes)
  | keys (keys : List Bytes)
  | bucketProps (props : BucketProps)
  | mapReduce (phases : List MapReducePhase)
  | index (results : IndexResults)
  | search (found : SearchQueryResp)
  | counter (value : Option Int64)
  deriving DecidableEq, Repr

namespace Response

/-- The name of the answer in reports. -/
def name : Response → String
  | pong => "pong"
  | ack => "ack"
  | serverInfo _ => "server-info"
  | clientId _ => "client-id"
  | object _ => "object"
  | stored _ => "stored"
  | buckets _ => "buckets"
  | keys _ => "keys"
  | bucketProps _ => "bucket-props"
  | mapReduce _ => "map-reduce"
  | index _ => "index"
  | search _ => "search"
  | counter _ => "counter"

/-- The number of elements; an answer that is no list has one. -/
def length : Response → Nat
  | buckets items | keys items => items.length
  | mapReduce phases => phases.length
  | index results => results.keys.length + results.results.length
  | _ => 1

/-- Whether there are no elements. -/
def isEmpty (r : Response) : Bool := r.length == 0

end Response

/-- Joins the matches of a later fragment; its continuation counts if it has one. -/
def IndexResults.append (a b : IndexResults) : IndexResults where
  keys := a.keys ++ b.keys
  results := a.results ++ b.results
  continuation := b.continuation.or a.continuation

namespace Response

/-- Appends a later fragment of the same streaming answer. -/
def merge : Response → Response → Except Fault Response
  | buckets a, buckets b => .ok (buckets (a ++ b))
  | keys a, keys b => .ok (keys (a ++ b))
  | mapReduce a, mapReduce b => .ok (mapReduce (a ++ b))
  | index a, index b => .ok (index (a.append b))
  | a, b => .error (.format (.unmergeable b.name a.name))

/-- The keys of a key listing. -/
def intoKeys : Response → Except Fault (List Bytes)
  | keys items => .ok items
  | _ => .error .unexpectedResponse

/-- The buckets of a bucket listing. -/
def intoBuckets : Response → Except Fault (List Bytes)
  | buckets items => .ok items
  | _ => .error .unexpectedResponse

end Response

namespace ResponseKind

/-- The message that a payload encodes, as a step of reading an answer. -/
def payloadAs (α : Type) [Message α] (payload : Bytes) : Except Fault α :=
  (Message.decode payload).mapError fun fault => .format (.undecodable fault)

/-- Reads the payload of an answer of this kind: the answer, and whether it is complete with it. An
answer in one frame always is, and its payload does not matter where it carries nothing. -/
def decodePayload : ResponseKind → Bytes → Except Fault (Response × Bool)
  | ping, _ => .ok (.pong, true)
  | setClientId, _ | delete, _ | setBucketProps, _ | resetBucketProps, _ => .ok (.ack, true)
  | serverInfo, payload => do
    return (.serverInfo (← payloadAs ServerInfoResp payload), true)
  | getClientId, payload => do
    return (.clientId (← payloadAs GetClientIdResp payload).clientId, true)
  | get, payload => do
    return (.object (← payloadAs GetResp payload), true)
  | put, payload => do
    return (.stored (← payloadAs PutResp payload), true)
  | getBucketProps, payload => do
    return (.bucketProps (← payloadAs GetBucketResp payload).props, true)
  | search, payload => do
    return (.search (← payloadAs SearchQueryResp payload), true)
  | counterUpdate, payload => do
    return (.counter (← payloadAs CounterUpdateResp payload).value, true)
  | counterGet, payload => do
    return (.counter (← payloadAs CounterGetResp payload).value, true)
  | listBuckets, payload => do
    let m ← payloadAs ListBucketsResp payload
    return (.buckets m.buckets, m.done.getD false)
  | listKeys, payload => do
    let m ← payloadAs ListKeysResp payload
    return (.keys m.keys, m.done.getD false)
  | indexQuery, payload => do
    let m ← payloadAs IndexResp payload
    return (.index { keys := m.keys, results := m.results, continuation := m.continuation },
      m.done.getD false)
  | mapReduce, payload => do
    let m ← payloadAs MapRedResp payload
    return (.mapReduce (m.response.toList.map fun data => { phase := m.phase, data }),
      m.done.getD false)

/-- Reads a frame of an answer, which must carry the expected tag. -/
def decode (kind : ResponseKind) (tag : UInt8) (payload : Bytes) :
    Except Fault (Response × Bool) :=
  if tag = kind.expectedTag.byte then kind.decodePayload payload
  else .error (.format (.unexpectedTag kind.expectedTag.byte tag))

end ResponseKind

/-- Reads the payload of an error frame. -/
def ServerError.decode (payload : Bytes) : Except Fault ServerError :=
  match Message.decode (α := ErrorResp) payload with
  | .ok m => .ok { code := m.errcode, message := m.errmsg }
  | .error fault => .error (.format (.undecodableError fault))

/-- The payload of an error frame. -/
def ServerError.encode (e : ServerError) : Bytes :=
  Message.encode { errmsg := e.message, errcode := e.code : ErrorResp }

end StoreClient
