/-!
# Message tags

The first byte of every frame body says which message follows. An odd tag is a request and the next
even tag its answer (counters count from 50 instead); tag 0 is the error frame, which may answer any
request. A tag outside the table is carried like any other and refused by whoever waits for an
answer.
-/

namespace StoreClient

/-- The tags of the protocol. -/
inductive Tag where
  | errorResp
  | pingReq | pingResp
  | getClientIdReq | getClientIdResp
  | setClientIdReq | setClientIdResp
  | serverInfoReq | serverInfoResp
  | getReq | getResp
  | putReq | putResp
  | delReq | delResp
  | listBucketsReq | listBucketsResp
  | listKeysReq | listKeysResp
  | getBucketReq | getBucketResp
  | setBucketReq | setBucketResp
  | mapRedReq | mapRedResp
  | indexReq | indexResp
  | searchQueryReq | searchQueryResp
  | resetBucketReq | resetBucketResp
  | counterUpdateReq | counterUpdateResp
  | counterGetReq | counterGetResp
  deriving DecidableEq, Repr

namespace Tag

/-- Every tag, in ascending order of its byte. -/
def all : List Tag :=
  [errorResp, pingReq, pingResp, getClientIdReq, getClientIdResp, setClientIdReq, setClientIdResp,
   serverInfoReq, serverInfoResp, getReq, getResp, putReq, putResp, delReq, delResp, listBucketsReq,
   listBucketsResp, listKeysReq, listKeysResp, getBucketReq, getBucketResp, setBucketReq,
   setBucketResp, mapRedReq, mapRedResp, indexReq, indexResp, searchQueryReq, searchQueryResp,
   resetBucketReq, resetBucketResp, counterUpdateReq, counterUpdateResp, counterGetReq,
   counterGetResp]

/-- The byte that stands for the tag on the wire. -/
def byte : Tag → UInt8
  | errorResp => 0
  | pingReq => 1
  | pingResp => 2
  | getClientIdReq => 3
  | getClientIdResp => 4
  | setClientIdReq => 5
  | setClientIdResp => 6
  | serverInfoReq => 7
  | serverInfoResp => 8
  | getReq => 9
  | getResp => 10
  | putReq => 11
  | putResp => 12
  | delReq => 13
  | delResp => 14
  | listBucketsReq => 15
  | listBucketsResp => 16
  | listKeysReq => 17
  | listKeysResp => 18
  | getBucketReq => 19
  | getBucketResp => 20
  | setBucketReq => 21
  | setBucketResp => 22
  | mapRedReq => 23
  | mapRedResp => 24
  | indexReq => 25
  | indexResp => 26
  | searchQueryReq => 27
  | searchQueryResp => 28
  | resetBucketReq => 29
  | resetBucketResp => 30
  | counterUpdateReq => 50
  | counterUpdateResp => 51
  | counterGetReq => 52
  | counterGetResp => 53

/-- The tag that a byte stands for, if it stands for one. -/
def ofByte? (b : UInt8) : Option Tag := all.find? (fun t => t.byte == b)

/-- The name of the message, as reports give it. -/
def name : Tag → String
  | errorResp => "ERROR_RESP"
  | pingReq => "PING"
  | pingResp => "PING_RESP"
  | getClientIdReq => "GET_CLIENT_ID"
  | getClientIdResp => "GET_CLIENT_ID_RESP"
  | setClientIdReq => "SET_CLIENT_ID"
  | setClientIdResp => "SET_CLIENT_ID_RESP"
  | serverInfoReq => "SERVER_INFO"
  | serverInfoResp => "SERVER_INFO_RESP"
  | getReq => "GET"
  | getResp => "GET_RESP"
  | putReq => "PUT"
  | putResp => "PUT_RESP"
  | delReq => "DELETE"
  | delResp => "DELETE_RESP"
  | listBucketsReq => "LIST_BUCKETS"
  | listBucketsResp => "LIST_BUCKETS_RESP"
  | listKeysReq => "LIST_KEYS"
  | listKeysResp => "LIST_KEYS_RESP"
  | getBucketReq => "GET_BUCKET_PROPS"
  | getBucketResp => "GET_BUCKET_PROPS_RESP"
  | setBucketReq => "SET_BUCKET_PROPS"
  | setBucketResp => "SET_BUCKET_PROPS_RESP"
  | mapRedReq => "MAP_REDUCE"
  | mapRedResp => "MAP_REDUCE_RESP"
  | indexReq => "INDEX"
  | indexResp => "INDEX_RESP"
  | searchQueryReq => "SEARCH"
  | searchQueryResp => "SEARCH_RESP"
  | resetBucketReq => "RESET_BUCKET_PROPS"
  | resetBucketResp => "RESET_BUCKET_PROPS_RESP"
  | counterUpdateReq => "COUNTER_UPDATE"
  | counterUpdateResp => "COUNTER_UPDATE_RESP"
  | counterGetReq => "COUNTER_GET"
  | counterGetResp => "COUNTER_GET_RESP"

/-- The name of the message type that the tag announces. -/
def typeName : Tag → String
  | errorResp => "ErrorResp"
  | pingReq => "PingReq"
  | pingResp => "PingResp"
  | getClientIdReq => "GetClientIdReq"
  | getClientIdResp => "GetClientIdResp"
  | setClientIdReq => "SetClientIdReq"
  | setClientIdResp => "SetClientIdResp"
  | serverInfoReq => "ServerInfoReq"
  | serverInfoResp => "ServerInfoResp"
  | getReq => "GetReq"
  | getResp => "GetResp"
  | putReq => "PutReq"
  | putResp => "PutResp"
  | delReq => "DelReq"
  | delResp => "DelResp"
  | listBucketsReq => "ListBucketsReq"
  | listBucketsResp => "ListBucketsResp"
  | listKeysReq => "ListKeysReq"
  | listKeysResp => "ListKeysResp"
  | getBucketReq => "GetBucketReq"
  | getBucketResp => "GetBucketResp"
  | setBucketReq => "SetBucketReq"
  | setBucketResp => "SetBucketResp"
  | mapRedReq => "MapRedReq"
  | mapRedResp => "MapRedResp"
  | indexReq => "IndexReq"
  | indexResp => "IndexResp"
  | searchQueryReq => "SearchQueryReq"
  | searchQueryResp => "SearchQueryResp"
  | resetBucketReq => "ResetBucketReq"
  | resetBucketResp => "ResetBucketResp"
  | counterUpdateReq => "CounterUpdateReq"
  | counterUpdateResp => "CounterUpdateResp"
  | counterGetReq => "CounterGetReq"
  | counterGetResp => "CounterGetResp"

/-- Whether the tag announces an error frame. -/
def isError (t : Tag) : Bool := t == errorResp

/-- Whether an answer with this tag may span several frames. -/
def isStreaming (t : Tag) : Bool :=
  t == listBucketsResp || t == listKeysResp || t == mapRedResp || t == indexResp

/-- The name of a tag byte in reports: its message name, or its number. -/
def describe (b : UInt8) : String :=
  match ofByte? b with
  | some t => t.name
  | none => s!"UNKNOWN({b.toNat})"

/-- A tag's byte stands for that tag. -/
@[simp] theorem ofByte?_byte (t : Tag) : ofByte? t.byte = some t := by
  cases t <;> rfl

/-- Only the byte of a tag stands for it. -/
theorem byte_of_ofByte? {b : UInt8} {t : Tag} (h : ofByte? b = some t) : t.byte = b := by
  simpa using List.find?_some h

end Tag

end StoreClient
