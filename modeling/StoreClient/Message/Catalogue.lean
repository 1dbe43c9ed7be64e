import StoreClient.Message.Identity
import StoreClient.Message.Listing
import StoreClient.Message.Query
import StoreClient.Message.Bucket
import StoreClient.Message.Counter

/-!
# The message types

Every message type of the protocol that has a payload. Tag-only messages (ping and its answer, the
requests for server and client identity, and plain acknowledgements) have none.
-/

namespace StoreClient

open Payload

/-- The schemas of the message types. -/
def Message.catalogue : List Schema :=
  [ErrorResp.schema, Pair.schema, Link.schema, Content.schema, BucketProps.schema,
   ServerInfoResp.schema, GetClientIdResp.schema, SetClientIdReq.schema, GetReq.schema,
   GetResp.schema, PutReq.schema, PutResp.schema, DelReq.schema, ListBucketsReq.schema,
   ListBucketsResp.schema, ListKeysReq.schema, ListKeysResp.schema, IndexReq.schema,
   IndexResp.schema, MapRedReq.schema, MapRedResp.schema, SearchQueryReq.schema, SearchDoc.schema,
   SearchQueryResp.schema, GetBucketReq.schema, GetBucketResp.schema, SetBucketReq.schema,
   ResetBucketReq.schema, CounterUpdateReq.schema, CounterUpdateResp.schema, CounterGetReq.schema,
   CounterGetResp.schema]

/-- The schema of a message type, by its name. -/
def Message.schema? (name : String) : Option Schema :=
  catalogue.find? (·.name == name)

end StoreClient
