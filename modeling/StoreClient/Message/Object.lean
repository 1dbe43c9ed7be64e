import StoreClient.Message.Basic

/-!
# Object messages

Objects, their contents, and the messages that fetch, store and delete them.
-/

namespace StoreClient

open Payload

/-- A key with an optional value: user metadata, an index entry or a field of a found document. -/
structure Pair where
  key : Bytes := []
  value : Option Bytes := none
  deriving DecidableEq, Repr, Inhabited

/-- The schema of `Pair`. -/
def Pair.schema : Schema :=
  ⟨"Pair", .ofList [
    (1, "key", .required, .bytes),
    (2, "value", .optional, .bytes)]⟩

instance : Message Pair where
  schema := Pair.schema
  toRecord m :=
    (m.key, m.value, ())
  ofRecord
    | (key, value, ()) =>
      { key, value }
  ofRecord_toRecord _ := rfl
  toRecord_ofRecord _ := rfl
  wellFormed := by decide

/-- A link from one object to another. -/
structure Link where
  bucket : Option Bytes := none
  key : Option Bytes := none
  tag : Option Bytes := none
  deriving DecidableEq, Repr, Inhabited

/-- The schema of `Link`. -/
def Link.schema : Schema :=
  ⟨"Link", .ofList [
    (1, "bucket", .optional, .bytes),
    (2, "key", .optional, .bytes),
    (3, "tag", .optional, .bytes)]⟩

instance : Message Link where
  schema := Link.schema
  toRecord m :=
    (m.bucket, m.key, m.tag, ())
  ofRecord
    | (bucket, key, tag, ()) =>
      { bucket, key, tag }
  ofRecord_toRecord _ := rfl
  toRecord_ofRecord _ := rfl
  wellFormed := by decide

/-- One of the values that an object holds. -/
structure Content where
  value : Bytes := []
  contentType : Option Bytes := none
  charset : Option Bytes := none
  contentEncoding : Option Bytes := none
  vtag : Option Bytes := none
  links : List Link := []
  lastMod : Option UInt32 := none
  lastModUsecs : Option UInt32 := none
  usermeta : List Pair := []
  indexes : List Pair := []
  deleted : Option Bool := none
  deriving DecidableEq, Repr, Inhabited

/-- The schema of `Content`. -/
def Content.schema : Schema :=
  ⟨"Content", .ofList [
    (1, "value", .required, .bytes),
    (2, "content_type", .optional, .bytes),
    (3, "charset", .optional, .bytes),
    (4, "content_encoding", .optional, .bytes),
    (5, "vtag", .optional, .bytes),
    (6, "links", .repeated, Link.schema.kind),
    (7, "last_mod", .optional, .uint32),
    (8, "last_mod_usecs", .optional, .uint32),
    (9, "usermeta", .repeated, Pair.schema.kind),
    (10, "indexes", .repeated, Pair.schema.kind),
    (11, "deleted", .optional, .bool)]⟩

instance : Message Content where
  schema := Content.schema
  toRecord m :=
    (m.value, m.contentType, m.charset, m.contentEncoding, m.vtag, m.links.map Message.toRecord,
     m.lastMod, m.lastModUsecs, m.usermeta.map Message.toRecord, m.indexes.map Message.toRecord,
     m.deleted, ())
  ofRecord
    | (value, contentType, charset, contentEncoding, vtag, links, lastMod, lastModUsecs, usermeta,
       indexes, deleted, ()) =>
      { value, contentType, charset, contentEncoding, vtag, links := links.map Message.ofRecord,
        lastMod, lastModUsecs, usermeta := usermeta.map Message.ofRecord,
        indexes := indexes.map Message.ofRecord, deleted }
  ofRecord_toRecord m :=
    congr (congr (congrArg
      (fun links usermeta indexes => ({ m with links, usermeta, indexes } : Content))
      (Message.map_ofRecord_toRecord m.links))
      (Message.map_ofRecord_toRecord m.usermeta))
      (Message.map_ofRecord_toRecord m.indexes)
  toRecord_ofRecord _ :=
    Prod.ext rfl <| Prod.ext rfl <| Prod.ext rfl <| Prod.ext rfl <| Prod.ext rfl <|
      Prod.ext (Message.map_toRecord_ofRecord _) <| Prod.ext rfl <| Prod.ext rfl <|
        Prod.ext (Message.map_toRecord_ofRecord _) <|
          Prod.ext (Message.map_toRecord_ofRecord _) rfl
  wellFormed := by decide

/-- Fetches an object. -/
structure GetReq where
  bucket : Bytes := []
  key : Bytes := []
  r : Option UInt32 := none
  pr : Option UInt32 := none
  basicQuorum : Option Bool := none
  notfoundOk : Option Bool := none
  ifModified : Option Bytes := none
  head : Option Bool := none
  deletedvclock : Option Bool := none
  timeout : Option UInt32 := none
  sloppyQuorum : Option Bool := none
  nVal : Option UInt32 := none
  bucketType : Option Bytes := none
  deriving DecidableEq, Repr, Inhabited

/-- The schema of `GetReq`. -/
def GetReq.schema : Schema :=
  ⟨"GetReq", .ofList [
    (1, "bucket", .required, .bytes),
    (2, "key", .required, .bytes),
    (3, "r", .optional, .uint32),
    (4, "pr", .optional, .uint32),
    (5, "basic_quorum", .optional, .bool),
    (6, "notfound_ok", .optional, .bool),
    (7, "if_modified", .optional, .bytes),
    (8, "head", .optional, .bool),
    (9, "deletedvclock", .optional, .bool),
    (10, "timeout", .optional, .uint32),
    (11, "sloppy_quorum", .optional, .bool),
    (12, "n_val", .optional, .uint32),
    (13, "r#type", .optional, .bytes)]⟩

instance : Message GetReq where
  schema := GetReq.schema
  toRecord m :=
    (m.bucket, m.key, m.r, m.pr, m.basicQuorum, m.notfoundOk, m.ifModified, m.head,
     m.deletedvclock, m.timeout, m.sloppyQuorum, m.nVal, m.bucketType, ())
  ofRecord
    | (bucket, key, r, pr, basicQuorum, notfoundOk, ifModified, head, deletedvclock, timeout,
       sloppyQuorum, nVal, bucketType, ()) =>
      { bucket, key, r, pr, basicQuorum, notfoundOk, ifModified, head, deletedvclock, timeout,
        sloppyQuorum, nVal, bucketType }
  ofRecord_toRecord _ := rfl
  toRecord_ofRecord _ := rfl
  wellFormed := by decide

/-- A fetched object; no content means that there is none under the key. -/
structure GetResp where
  content : List Content := []
  vclock : Option Bytes := none
  unchanged : Option Bool := none
  deriving DecidableEq, Repr, Inhabited

/-- The schema of `GetResp`. -/
def GetResp.schema : Schema :=
  ⟨"GetResp", .ofList [
    (1, "content", .repeated, Content.schema.kind),
    (2, "vclock", .optional, .bytes),
    (3, "unchanged", .optional, .bool)]⟩

instance : Message GetResp where
  schema := GetResp.schema
  toRecord m :=
    (m.content.map Message.toRecord, m.vclock, m.unchanged, ())
  ofRecord
    | (content, vclock, unchanged, ()) =>
      { content := content.map Message.ofRecord, vclock, unchanged }
  ofRecord_toRecord m :=
    congrArg (fun content => ({ m with content } : GetResp))
      (Message.map_ofRecord_toRecord m.content)
  toRecord_ofRecord _ :=
    Prod.ext (Message.map_toRecord_ofRecord _) rfl
  wellFormed := by decide

/-- Stores an object. -/
structure PutReq where
  bucket : Bytes := []
  key : Option Bytes := none
  vclock : Option Bytes := none
  content : Content := {}
  w : Option UInt32 := none
  dw : Option UInt32 := none
  returnBody : Option Bool := none
  pw : Option UInt32 := none
  ifNotModified : Option Bool := none
  ifNoneMatch : Option Bool := none
  returnHead : Option Bool := none
  timeout : Option UInt32 := none
  asis : Option Bool := none
  sloppyQuorum : Option Bool := none
  nVal : Option UInt32 := none
  bucketType : Option Bytes := none
  deriving DecidableEq, Repr, Inhabited

/-- The schema of `PutReq`. -/
def PutReq.schema : Schema :=
  ⟨"PutReq", .ofList [
    (1, "bucket", .required, .bytes),
    (2, "key", .optional, .bytes),
    (3, "vclock", .optional, .bytes),
    (4, "content", .required, Content.schema.kind),
    (5, "w", .optional, .uint32),
    (6, "dw", .optional, .uint32),
    (7, "return_body", .optional, .bool),
    (8, "pw", .optional, .uint32),
    (9, "if_not_modified", .optional, .bool),
    (10, "if_none_match", .optional, .bool),
    (11, "return_head", .optional, .bool),
    (12, "timeout", .optional, .uint32),
    (13, "asis", .optional, .bool),
    (14, "sloppy_quorum", .optional, .bool),
    (15, "n_val", .optional, .uint32),
    (16, "r#type", .optional, .bytes)]⟩

instance : Message PutReq where
  schema := PutReq.schema
  toRecord m :=
    (m.bucket, m.key, m.vclock, Message.toRecord m.content, m.w, m.dw, m.returnBody, m.pw,
     m.ifNotModified, m.ifNoneMatch, m.returnHead, m.timeout, m.asis, m.sloppyQuorum, m.nVal,
     m.bucketType, ())
  ofRecord
    | (bucket, key, vclock, content, w, dw, returnBody, pw, ifNotModified, ifNoneMatch,
       returnHead, timeout, asis, sloppyQuorum, nVal, bucketType, ()) =>
      { bucket, key, vclock, content := Message.ofRecord content, w, dw, returnBody, pw,
        ifNotModified, ifNoneMatch, returnHead, timeout, asis, sloppyQuorum, nVal, bucketType }
  ofRecord_toRecord m := by
    cases m; simp only [Message.ofRecord_toRecord]
  toRecord_ofRecord _ :=
    Prod.ext rfl (Prod.ext rfl (Prod.ext rfl (Prod.ext (Message.toRecord_ofRecord _) rfl)))
  wellFormed := by decide

/-- What was stored. -/
structure PutResp where
  content : List Content := []
  vclock : Option Bytes := none
  key : Option Bytes := none
  deriving DecidableEq, Repr, Inhabited

/-- The schema of `PutResp`. -/
def PutResp.schema : Schema :=
  ⟨"PutResp", .ofList [
    (1, "content", .repeated, Content.schema.kind),
    (2, "vclock", .optional, .bytes),
    (3, "key", .optional, .bytes)]⟩

instance : Message PutResp where
  schema := PutResp.schema
  toRecord m :=
    (m.content.map Message.toRecord, m.vclock, m.key, ())
  ofRecord
    | (content, vclock, key, ()) =>
      { content := content.map Message.ofRecord, vclock, key }
  ofRecord_toRecord m :=
    congrArg (fun content => ({ m with content } : PutResp))
      (Message.map_ofRecord_toRecord m.content)
  toRecord_ofRecord _ :=
    Prod.ext (Message.map_toRecord_ofRecord _) rfl
  wellFormed := by decide

/-- Deletes an object. -/
structure DelReq where
  bucket : Bytes := []
  key : Bytes := []
  rw : Option UInt32 := none
  vclock : Option Bytes := none
  r : Option UInt32 := none
  w : Option UInt32 := none
  pr : Option UInt32 := none
  pw : Option UInt32 := none
  dw : Option UInt32 := none
  timeout : Option UInt32 := none
  sloppyQuorum : Option Bool := none
  nVal : Option UInt32 := none
  bucketType : Option Bytes := none
  deriving DecidableEq, Repr, Inhabited

/-- The schema of `DelReq`. -/
def DelReq.schema : Schema :=
  ⟨"DelReq", .ofList [
    (1, "bucket", .required, .bytes),
    (2, "key", .required, .bytes),
    (3, "rw", .optional, .uint32),
    (4, "vclock", .optional, .bytes),
    (5, "r", .optional, .uint32),
    (6, "w", .optional, .uint32),
    (7, "pr", .optional, .uint32),
    (8, "pw", .optional, .uint32),
    (9, "dw", .optional, .uint32),
    (10, "timeout", .optional, .uint32),
    (11, "sloppy_quorum", .optional, .bool),
    (12, "n_val", .optional, .uint32),
    (13, "r#type", .optional, .bytes)]⟩

instance : Message DelReq where
  schema := DelReq.schema
  toRecord m :=
    (m.bucket, m.key, m.rw, m.vclock, m.r, m.w, m.pr, m.pw, m.dw, m.timeout, m.sloppyQuorum,
     m.nVal, m.bucketType, ())
  ofRecord
    | (bucket, key, rw, vclock, r, w, pr, pw, dw, timeout, sloppyQuorum, nVal, bucketType, ()) =>
      { bucket, key, rw, vclock, r, w, pr, pw, dw, timeout, sloppyQuorum, nVal, bucketType }
  ofRecord_toRecord _ := rfl
  toRecord_ofRecord _ := rfl
  wellFormed := by decide

end StoreClient
