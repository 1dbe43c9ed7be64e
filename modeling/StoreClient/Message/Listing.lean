import StoreClient.Message.Basic

/-!
# Listing messages

The messages that list buckets and keys; the answers may come in several fragments.
-/

namespace StoreClient

open Payload

/-- Lists the buckets. -/
structure ListBucketsReq where
  timeout : Option UInt32 := none
  stream : Option Bool := none
  bucketType : Option Bytes := none
  deriving DecidableEq, Repr, Inhabited

/-- The schema of `ListBucketsReq`. -/
def ListBucketsReq.schema : Schema :=
  ⟨"ListBucketsReq", .ofList [
    (1, "timeout", .optional, .uint32),
    (2, "stream", .optional, .bool),
    (3, "r#type", .optional, .bytes)]⟩

instance : Message ListBucketsReq where
  schema := ListBucketsReq.schema
  toRecord m :=
    (m.timeout, m.stream, m.bucketType, ())
  ofRecord
    | (timeout, stream, bucketType, ()) =>
      { timeout, stream, bucketType }
  ofRecord_toRecord _ := rfl
  toRecord_ofRecord _ := rfl
  wellFormed := by decide

/-- Some of the buckets; the last fragment is marked as done. -/
structure ListBucketsResp where
  buckets : List Bytes := []
  done : Option Bool := none
  deriving DecidableEq, Repr, Inhabited

/-- The schema of `ListBucketsResp`. -/
def ListBucketsResp.schema : Schema :=
  ⟨"ListBucketsResp", .ofList [
    (1, "buckets", .repeated, .bytes),
    (2, "done", .optional, .bool)]⟩

instance : Message ListBucketsResp where
  schema := ListBucketsResp.schema
  toRecord m :=
    (m.buckets, m.done, ())
  ofRecord
    | (buckets, done, ()) =>
      { buckets, done }
  ofRecord_toRecord _ := rfl
  toRecord_ofRecord _ := rfl
  wellFormed := by decide

/-- Lists the keys of a bucket. -/
structure ListKeysReq where
  bucket : Bytes := []
  timeout : Option UInt32 := none
  bucketType : Option Bytes := none
  deriving DecidableEq, Repr, Inhabited

/-- The schema of `ListKeysReq`. -/
def ListKeysReq.schema : Schema :=
  ⟨"ListKeysReq", .ofList [
    (1, "bucket", .required, .bytes),
    (2, "timeout", .optional, .uint32),
    (3, "r#type", .optional, .bytes)]⟩

instance : Message ListKeysReq where
  schema := ListKeysReq.schema
  toRecord m :=
    (m.bucket, m.timeout, m.bucketType, ())
  ofRecord
    | (bucket, timeout, bucketType, ()) =>
      { bucket, timeout, bucketType }
  ofRecord_toRecord _ := rfl
  toRecord_ofRecord _ := rfl
  wellFormed := by decide

/-- Some of the keys; the last fragment is marked as done. -/
structure ListKeysResp where
  keys : List Bytes := []
  done : Option Bool := none
  deriving DecidableEq, Repr, Inhabited

/-- The schema of `ListKeysResp`. -/
def ListKeysResp.schema : Schema :=
  ⟨"ListKeysResp", .ofList [
    (1, "keys", .repeated, .bytes),
    (2, "done", .optional, .bool)]⟩

instance : Message ListKeysResp where
  schema := ListKeysResp.schema
  toRecord m :=
    (m.keys, m.done, ())
  ofRecord
    | (keys, done, ()) =>
      { keys, done }
  ofRecord_toRecord _ := rfl
  toRecord_ofRecord _ := rfl
  wellFormed := by decide

end StoreClient
