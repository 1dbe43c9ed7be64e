import StoreClient.Request

/-!
# Typed calls

A typed call is a request together with the reading of its answer. Each kind of request has one, so
that callers deal in buckets, objects and counters and not in the one type of all responses.
-/

namespace StoreClient

/-- A request whose answer is read as an `α`. -/
structure TypedCall (α : Type) where
  request : Request
  /-- The reading of the answer; there is none for an answer of another kind. -/
  read? : Response → Option α

namespace TypedCall

/-- Reads an answer. -/
def read {α : Type} (c : TypedCall α) (answer : Except Fault Response) : Except Fault α := do
  match c.read? (← answer) with
  | some value => return value
  | none => throw .unexpectedResponse

/-- The reading of a plain acknowledgement. -/
def acknowledged? : Response → Option Unit
  | .ack => some ()
  | _ => none

/-- The reading of the value of a counter. -/
def counter? : Response → Option (Option Int64)
  | .counter value => some value
  | _ => none

/-- Asks for a sign of life. -/
def ping : TypedCall Unit where
  request := .ping
  read?
    | .pong => some ()
    | _ => none

/-- Asks who the server is. -/
def serverInfo : TypedCall ServerInfoResp where
  request := .serverInfo
  read?
    | .serverInfo info => some info
    | _ => none

/-- Asks for the client identifier of the connection. -/
def getClientId : TypedCall Bytes where
  request := .getClientId
  read?
    | .clientId id => some id
    | _ => none

/-- Sets the client identifier of the connection. -/
def setClientId (clientId : Bytes) : TypedCall Unit where
  request := .setClientIdTo clientId
  read? := acknowledged?

/-- Fetches an object; no content means that there is none under the key. -/
def get (bucket key : Bytes) : TypedCall GetResp where
  request := .getObject bucket key
  read?
    | .object object => some object
    | _ => none

/-- Stores a value under a key. -/
def put (bucket key value : Bytes) : TypedCall PutResp where
  request := .putObject bucket key value
  read?
    | .stored stored => some stored
    | _ => none

/-- Deletes an object. -/
def delete (bucket key : Bytes) : TypedCall Unit where
  request := .deleteObject bucket key
  read? := acknowledged?

/-- Lists every bucket. -/
def listBuckets : TypedCall (List Bytes) where
  request := .allBuckets
  read? response := response.intoBuckets.toOption

/-- Lists the keys of a bucket. -/
def listKeys (bucket : Bytes) : TypedCall (List Bytes) where
  request := .keysOf bucket
  read? response := response.intoKeys.toOption

/-- Queries a secondary index. -/
def indexQuery (query : IndexReq) : TypedCall IndexResults where
  request := .indexQuery query
  read?
    | .index results => some results
    | _ => none

/-- Runs a map-reduce job. -/
def mapReduce (job contentType : Bytes) : TypedCall (List MapReducePhase) where
  request := .mapReduceJob job contentType
  read?
    | .mapReduce phases => some phases
    | _ => none

/-- Queries a search index. -/
def search (index query : Bytes) : TypedCall SearchQueryResp where
  request := .searchFor index query
  read?
    | .search found => some found
    | _ => none

/-- Asks for the properties of a bucket. -/
def getBucketProps (bucket : Bytes) : TypedCall BucketProps where
  request := .bucketProps bucket
  read?
    | .bucketProps props => some props
    | _ => none

/-- Sets properties of a bucket. -/
def setBucketProps (bucket : Bytes) (props : BucketProps) : TypedCall Unit where
  request := .setBucketPropsTo bucket props
  read? := acknowledged?

/-- Resets the properties of a bucket. -/
def resetBucketProps (bucket : Bytes) : TypedCall Unit where
  request := .resetBucket bucket
  read? := acknowledged?

/-- Adds an amount to a counter and gives the new value, if the server tells it. -/
def counterUpdate (bucket key : Bytes) (amount : Int64) : TypedCall (Option Int64) where
  request := .addToCounter bucket key amount
  read? := counter?

/-- Gives the value of a counter, if it has one. -/
def counterGet (bucket key : Bytes) : TypedCall (Option Int64) where
  request := .counterValue bucket key
  read? := counter?

end TypedCall

end StoreClient
