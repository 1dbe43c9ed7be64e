import StoreClient.Frame
import StoreClient.Response

/-!
# Requests

What a client can ask. Encoding a request fixes, in one step, the frame that is sent and the kind of
answer that is waited for.
-/

namespace StoreClient

/-- A request. -/
inductive Request where
  | ping
  | serverInfo
  | getClientId
  | setClientId (message : SetClientIdReq)
  | get (message : GetReq)
  | put (message : PutReq)
  | delete (message : DelReq)
  | listBuckets (message : ListBucketsReq)
  | listKeys (message : ListKeysReq)
  | getBucketProps (message : GetBucketReq)
  | setBucketProps (message : SetBucketReq)
  | resetBucketProps (message : ResetBucketReq)
  | mapReduce (message : MapRedReq)
  | indexQuery (message : IndexReq)
  | search (message : SearchQueryReq)
  | counterUpdate (message : CounterUpdateReq)
  | counterGet (message : CounterGetReq)
  deriving DecidableEq, Repr

/-- A request in the form in which it is sent, with the kind of its answer. -/
structure EncodedRequest where
  tag : Tag
  body : Bytes
  kind : ResponseKind
  deriving DecidableEq, Repr

/-- The frame that carries the request. -/
def EncodedRequest.frame (r : EncodedRequest) : Frame := { tag := r.tag.byte, payload := r.body }

namespace Request

/-- The tag of a request. -/
def tag : Request → Tag
  | ping => .pingReq
  | serverInfo => .serverInfoReq
  | getClientId => .getClientIdReq
  | setClientId _ => .setClientIdReq
  | get _ => .getReq
  | put _ => .putReq
  | delete _ => .delReq
  | listBuckets _ => .listBucketsReq
  | listKeys _ => .listKeysReq
  | getBucketProps _ => .getBucketReq
  | setBucketProps _ => .setBucketReq
  | resetBucketProps _ => .resetBucketReq
  | mapReduce _ => .mapRedReq
  | indexQuery _ => .indexReq
  | search _ => .searchQueryReq
  | counterUpdate _ => .counterUpdateReq
  | counterGet _ => .counterGetReq

/-- The payload of a request. -/
def body : Request → Bytes
  | ping | serverInfo | getClientId => []
  | setClientId m => Message.encode m
  | get m => Message.encode m
  | put m => Message.encode m
  | delete m => Message.encode m
  | listBuckets m => Message.encode m
  | listKeys m => Message.encode m
  | getBucketProps m => Message.encode m
  | setBucketProps m => Message.encode m
  | resetBucketProps m => Message.encode m
  | mapReduce m => Message.encode m
  | indexQuery m => Message.encode m
  | search m => Message.encode m
  | counterUpdate m => Message.encode m
  | counterGet m => Message.encode m

/-- The kind of the answer to a request. -/
def responseKind : Request → ResponseKind
  | ping => .ping
  | serverInfo => .serverInfo
  | getClientId => .getClientId
  | setClientId _ => .setClientId
  | get _ => .get
  | put _ => .put
  | delete _ => .delete
  | listBuckets _ => .listBuckets
  | listKeys _ => .listKeys
  | getBucketProps _ => .getBucketProps
  | setBucketProps _ => .setBucketProps
  | resetBucketProps _ => .resetBucketProps
  | mapReduce _ => .mapReduce
  | indexQuery _ => .indexQuery
  | search _ => .search
  | counterUpdate _ => .counterUpdate
  | counterGet _ => .counterGet

/-- The request as it is sent. -/
def encode (r : Request) : EncodedRequest where
  tag := r.tag
  body := r.body
  kind := r.responseKind

/-! ### Common requests -/

/-- Sets the client identifier of the connection. -/
def setClientIdTo (clientId : Bytes) : Request := setClientId { clientId }

/-- Fetches an object. -/
def getObject (bucket key : Bytes) : Request := get { bucket, key }

/-- Stores a value under a key. -/
def putObject (bucket key value : Bytes) : Request :=
  put { bucket, key := some key, content := { value } }

/-- Deletes an object. -/
def deleteObject (bucket key : Bytes) : Request := delete { bucket, key }

/-- Lists every bucket, in fragments. -/
def allBuckets : Request := listBuckets { stream := some true }

/-- Lists the keys of a bucket. -/
def keysOf (bucket : Bytes) : Request := listKeys { bucket }

/-- The query type of an exact match. -/
def exactMatch : Int32 := 0

/-- The query type of a range, both of whose ends belong to it. -/
def rangeMatch : Int32 := 1

/-- Queries a secondary index for one key. -/
def indexEq (bucket index key : Bytes) : Request :=
  indexQuery { bucket, index, qtype := exactMatch, key := some key, stream := some true }

/-- Queries a secondary index for the keys from `min` to `max`. -/
def indexRange (bucket index min max : Bytes) : Request :=
  indexQuery { bucket, index, qtype := rangeMatch, rangeMin := some min, rangeMax := some max,
               stream := some true }

/-- Runs a map-reduce job. -/
def mapReduceJob (request contentType : Bytes) : Request := mapReduce { request, contentType }

/-- Queries a search index. -/
def searchFor (index query : Bytes) : Request := search { q := query, index }

/-- Asks for the properties of a bucket. -/
def bucketProps (bucket : Bytes) : Request := getBucketProps { bucket }

/-- Sets properties of a bucket. -/
def setBucketPropsTo (bucket : Bytes) (props : BucketProps) : Request :=
  setBucketProps { bucket, props }

/-- Resets the properties of a bucket. -/
def resetBucket (bucket : Bytes) : Request := resetBucketProps { bucket }

/-- Adds an amount to a counter and asks for its new value. -/
def addToCounter (bucket key : Bytes) (amount : Int64) : Request :=
  counterUpdate { bucket, key, amount, returnvalue := some true }

/-- Asks for the value of a counter. -/
def counterValue (bucket key : Bytes) : Request := counterGet { bucket, key }

end Request

end StoreClient
