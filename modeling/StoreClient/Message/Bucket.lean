import StoreClient.Message.Basic

/-!
# Bucket messages

The properties of a bucket and the messages that read, set and reset them.
-/

namespace StoreClient

open Payload

/-- The properties of a bucket. -/
structure BucketProps where
  nVal : Option UInt32 := none
  allowMult : Option Bool := none
  lastWriteWins : Option Bool := none
  hasPrecommit : Option Bool := none
  hasPostcommit : Option Bool := none
  oldVclock : Option UInt32 := none
  youngVclock : Option UInt32 := none
  bigVclock : Option UInt32 := none
  smallVclock : Option UInt32 := none
  pr : Option UInt32 := none
  r : Option UInt32 := none
  w : Option UInt32 := none
  pw : Option UInt32 := none
  dw : Option UInt32 := none
  rw : Option UInt32 := none
  basicQuorum : Option Bool := none
  notfoundOk : Option Bool := none
  backend : Option Bytes := none
  search : Option Bool := none
  searchIndex : Option Bytes := none
  datatype : Option Bytes := none
  consistent : Option Bool := none
  writeOnce : Option Bool := none
  deriving DecidableEq, Repr, Inhabited

/-- The schema of `BucketProps`. -/
def BucketProps.schema : Schema :=
  ⟨"BucketProps", .ofList [
    (1, "n_val", .optional, .uint32),
    (2, "allow_mult", .optional, .bool),
    (3, "last_write_wins", .optional, .bool),
    (5, "has_precommit", .optional, .bool),
    (7, "has_postcommit", .optional, .bool),
    (10, "old_vclock", .optional, .uint32),
    (11, "young_vclock", .optional, .uint32),
    (12, "big_vclock", .optional, .uint32),
    (13, "small_vclock", .optional, .uint32),
    (14, "pr", .optional, .uint32),
    (15, "r", .optional, .uint32),
    (16, "w", .optional, .uint32),
    (17, "pw", .optional, .uint32),
    (18, "dw", .optional, .uint32),
    (19, "rw", .optional, .uint32),
    (20, "basic_quorum", .optional, .bool),
    (21, "notfound_ok", .optional, .bool),
    (22, "backend", .optional, .bytes),
    (23, "search", .optional, .bool),
    (25, "search_index", .optional, .bytes),
    (26, "datatype", .optional, .bytes),
    (27, "consistent", .optional, .bool),
    (28, "write_once", .optional, .bool)]⟩

instance : Message BucketProps where
  schema := BucketProps.schema
  toRecord m :=
    (m.nVal, m.allowMult, m.lastWriteWins, m.hasPrecommit, m.hasPostcommit, m.oldVclock,
     m.youngVclock, m.bigVclock, m.smallVclock, m.pr, m.r, m.w, m.pw, m.dw, m.rw, m.basicQuorum,
     m.notfoundOk, m.backend, m.search, m.searchIndex, m.datatype, m.consistent, m.writeOnce, ())
  ofRecord
    | (nVal, allowMult, lastWriteWins, hasPrecommit, hasPostcommit, oldVclock, youngVclock,
       bigVclock, smallVclock, pr, r, w, pw, dw, rw, basicQuorum, notfoundOk, backend, search,
       searchIndex, datatype, consistent, writeOnce, ()) =>
      { nVal, allowMult, lastWriteWins, hasPrecommit, hasPostcommit, oldVclock, youngVclock,
        bigVclock, smallVclock, pr, r, w, pw, dw, rw, basicQuorum, notfoundOk, backend, search,
        searchIndex, datatype, consistent, writeOnce }
  ofRecord_toRecord _ := rfl
  toRecord_ofRecord _ := rfl
  wellFormed := by decide

/-- Asks for the properties of a bucket. -/
structure GetBucketReq where
  bucket : Bytes := []
  bucketType : Option Bytes := none
  deriving DecidableEq, Repr, Inhabited

/-- The schema of `GetBucketReq`. -/
def GetBucketReq.schema : Schema :=
  ⟨"GetBucketReq", .ofList [
    (1, "bucket", .required, .bytes),
    (2, "r#type", .optional, .bytes)]⟩

instance : Message GetBucketReq where
  schema := GetBucketReq.schema
  toRecord m :=
    (m.bucket, m.bucketType, ())
  ofRecord
    | (bucket, bucketType, ()) =>
      { bucket, bucketType }
  ofRecord_toRecord _ := rfl
  toRecord_ofRecord _ := rfl
  wellFormed := by decide

/-- The properties of a bucket. -/
structure GetBucketResp where
  props : BucketProps := {}
  deriving DecidableEq, Repr, Inhabited

/-- The schema of `GetBucketResp`. -/
def GetBucketResp.schema : Schema :=
  ⟨"GetBucketResp", .ofList [
    (1, "props", .required, BucketProps.schema.kind)]⟩

instance : Message GetBucketResp where
  schema := GetBucketResp.schema
  toRecord m :=
    (Message.toRecord m.props, ())
  ofRecord
    | (props, ()) =>
      { props := Message.ofRecord props }
  ofRecord_toRecord m := by
    cases m; simp only [Message.ofRecord_toRecord]
  toRecord_ofRecord _ :=
    Prod.ext (Message.toRecord_ofRecord _) rfl
  wellFormed := by decide

/-- Sets properties of a bucket. -/
structure SetBucketReq where
  bucket : Bytes := []
  props : BucketProps := {}
  bucketType : Option Bytes := none
  deriving DecidableEq, Repr, Inhabited

/-- The schema of `SetBucketReq`. -/
def SetBucketReq.schema : Schema :=
  ⟨"SetBucketReq", .ofList [
    (1, "bucket", .required, .bytes),
    (2, "props", .required, BucketProps.schema.kind),
    (3, "r#type", .optional, .bytes)]⟩

instance : Message SetBucketReq where
  schema := SetBucketReq.schema
  toRecord m :=
    (m.bucket, Message.toRecord m.props, m.bucketType, ())
  ofRecord
    | (bucket, props, bucketType, ()) =>
      { bucket, props := Message.ofRecord props, bucketType }
  ofRecord_toRecord m := by
    cases m; simp only [Message.ofRecord_toRecord]
  toRecord_ofRecord _ :=
    Prod.ext rfl (Prod.ext (Message.toRecord_ofRecord _) rfl)
  wellFormed := by decide

/-- Resets the properties of a bucket to their defaults. -/
structure ResetBucketReq where
  bucket : Bytes := []
  bucketType : Option Bytes := none
  deriving DecidableEq, Repr, Inhabited

/-- The schema of `ResetBucketReq`. -/
def ResetBucketReq.schema : Schema :=
  ⟨"ResetBucketReq", .ofList [
    (1, "bucket", .required, .bytes),
    (2, "r#type", .optional, .bytes)]⟩

instance : Message ResetBucketReq where
  schema := ResetBucketReq.schema
  toRecord m :=
    (m.bucket, m.bucketType, ())
  ofRecord
    | (bucket, bucketType, ()) =>
      { bucket, bucketType }
  ofRecord_toRecord _ := rfl
  toRecord_ofRecord _ := rfl
  wellFormed := by decide

end StoreClient
