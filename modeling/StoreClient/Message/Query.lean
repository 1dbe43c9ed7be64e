import StoreClient.Message.Object

/-!
# Query messages

Secondary-index queries, map-reduce jobs and searches.
-/

namespace StoreClient

open Payload

/-- Queries a secondary index for a key or for a range of keys. -/
structure IndexReq where
  bucket : Bytes := []
  index : Bytes := []
  qtype : Int32 := 0
  key : Option Bytes := none
  rangeMin : Option Bytes := none
  rangeMax : Option Bytes := none
  returnTerms : Option Bool := none
  stream : Option Bool := none
  maxResults : Option UInt32 := none
  continuation : Option Bytes := none
  timeout : Option UInt32 := none
  bucketType : Option Bytes := none
  termRegex : Option Bytes := none
  paginationSort : Option Bool := none
  deriving DecidableEq, Repr, Inhabited

/-- The schema of `IndexReq`. -/
def IndexReq.schema : Schema :=
  ⟨"IndexReq", .ofList [
    (1, "bucket", .required, .bytes),
    (2, "index", .required, .bytes),
    (3, "qtype", .required, .enumeration),
    (4, "key", .optional, .bytes),
    (5, "range_min", .optional, .bytes),
    (6, "range_max", .optional, .bytes),
    (7, "return_terms", .optional, .bool),
    (8, "stream", .optional, .bool),
    (9, "max_results", .optional, .uint32),
    (10, "continuation", .optional, .bytes),
    (11, "timeout", .optional, .uint32),
    (12, "r#type", .optional, .bytes),
    (13, "term_regex", .optional, .bytes),
    (14, "pagination_sort", .optional, .bool)]⟩

instance : Message IndexReq where
  schema := IndexReq.schema
  toRecord m :=
    (m.bucket, m.index, m.qtype, m.key, m.rangeMin, m.rangeMax, m.returnTerms, m.stream,
     m.maxResults, m.continuation, m.timeout, m.bucketType, m.termRegex, m.paginationSort, ())
  ofRecord
    | (bucket, index, qtype, key, rangeMin, rangeMax, returnTerms, stream, maxResults,
       continuation, timeout, bucketType, termRegex, paginationSort, ()) =>
      { bucket, index, qtype, key, rangeMin, rangeMax, returnTerms, stream, maxResults,
        continuation, timeout, bucketType, termRegex, paginationSort }
  ofRecord_toRecord _ := rfl
  toRecord_ofRecord _ := rfl
  wellFormed := by decide

/-- Some of the matches, as keys or as term and key; the last fragment is marked as done. -/
structure IndexResp where
  keys : List Bytes := []
  results : List Pair := []
  continuation : Option Bytes := none
  done : Option Bool := none
  deriving DecidableEq, Repr, Inhabited

/-- The schema of `IndexResp`. -/
def IndexResp.schema : Schema :=
  ⟨"IndexResp", .ofList [
    (1, "keys", .repeated, .bytes),
    (2, "results", .repeated, Pair.schema.kind),
    (3, "continuation", .optional, .bytes),
    (4, "done", .optional, .bool)]⟩

instance : Message IndexResp where
  schema := IndexResp.schema
  toRecord m :=
    (m.keys, m.results.map Message.toRecord, m.continuation, m.done, ())
  ofRecord
    | (keys, results, continuation, done, ()) =>
      { keys, results := results.map Message.ofRecord, continuation, done }
  ofRecord_toRecord m :=
    congrArg (fun results => ({ m with results } : IndexResp))
      (Message.map_ofRecord_toRecord m.results)
  toRecord_ofRecord _ :=
    Prod.ext rfl (Prod.ext (Message.map_toRecord_ofRecord _) rfl)
  wellFormed := by decide

/-- Runs a map-reduce job. -/
structure MapRedReq where
  request : Bytes := []
  contentType : Bytes := []
  deriving DecidableEq, Repr, Inhabited

/-- The schema of `MapRedReq`. -/
def MapRedReq.schema : Schema :=
  ⟨"MapRedReq", .ofList [
    (1, "request", .required, .bytes),
    (2, "content_type", .required, .bytes)]⟩

instance : Message MapRedReq where
  schema := MapRedReq.schema
  toRecord m :=
    (m.request, m.contentType, ())
  ofRecord
    | (request, contentType, ()) =>
      { request, contentType }
  ofRecord_toRecord _ := rfl
  toRecord_ofRecord _ := rfl
  wellFormed := by decide

/-- Some of the output of a phase; the last fragment is marked as done. -/
structure MapRedResp where
  phase : Option UInt32 := none
  response : Option Bytes := none
  done : Option Bool := none
  deriving DecidableEq, Repr, Inhabited

/-- The schema of `MapRedResp`. -/
def MapRedResp.schema : Schema :=
  ⟨"MapRedResp", .ofList [
    (1, "phase", .optional, .uint32),
    (2, "response", .optional, .bytes),
    (3, "done", .optional, .bool)]⟩

instance : Message MapRedResp where
  schema := MapRedResp.schema
  toRecord m :=
    (m.phase, m.response, m.done, ())
  ofRecord
    | (phase, response, done, ()) =>
      { phase, response, done }
  ofRecord_toRecord _ := rfl
  toRecord_ofRecord _ := rfl
  wellFormed := by decide

/-- Queries a search index. -/
structure SearchQueryReq where
  q : Bytes := []
  index : Bytes := []
  rows : Option UInt32 := none
  start : Option UInt32 := none
  sort : Option Bytes := none
  filter : Option Bytes := none
  df : Option Bytes := none
  op : Option Bytes := none
  fl : List Bytes := []
  presort : Option Bytes := none
  deriving DecidableEq, Repr, Inhabited

/-- The schema of `SearchQueryReq`. -/
def SearchQueryReq.schema : Schema :=
  ⟨"SearchQueryReq", .ofList [
    (1, "q", .required, .bytes),
    (2, "index", .required, .bytes),
    (3, "rows", .optional, .uint32),
    (4, "start", .optional, .uint32),
    (5, "sort", .optional, .bytes),
    (6, "filter", .optional, .bytes),
    (7, "df", .optional, .bytes),
    (8, "op", .optional, .bytes),
    (9, "fl", .repeated, .bytes),
    (10, "presort", .optional, .bytes)]⟩

instance : Message SearchQueryReq where
  schema := SearchQueryReq.schema
  toRecord m :=
    (m.q, m.index, m.rows, m.start, m.sort, m.filter, m.df, m.op, m.fl, m.presort, ())
  ofRecord
    | (q, index, rows, start, sort, filter, df, op, fl, presort, ()) =>
      { q, index, rows, start, sort, filter, df, op, fl, presort }
  ofRecord_toRecord _ := rfl
  toRecord_ofRecord _ := rfl
  wellFormed := by decide

/-- A found document. -/
structure SearchDoc where
  fields : List Pair := []
  deriving DecidableEq, Repr, Inhabited

/-- The schema of `SearchDoc`. -/
def SearchDoc.schema : Schema :=
  ⟨"SearchDoc", .ofList [
    (1, "fields", .repeated, Pair.schema.kind)]⟩

instance : Message SearchDoc where
  schema := SearchDoc.schema
  toRecord m :=
    (m.fields.map Message.toRecord, ())
  ofRecord
    | (fields, ()) =>
      { fields := fields.map Message.ofRecord }
  ofRecord_toRecord m :=
    congrArg (fun fields => ({ m with fields } : SearchDoc))
      (Message.map_ofRecord_toRecord m.fields)
  toRecord_ofRecord _ :=
    Prod.ext (Message.map_toRecord_ofRecord _) rfl
  wellFormed := by decide

/-- The documents that a search found; `maxScore` is the bits of a floating-point number. -/
structure SearchQueryResp where
  docs : List SearchDoc := []
  maxScore : Option UInt32 := none
  numFound : Option UInt32 := none
  deriving DecidableEq, Repr, Inhabited

/-- The schema of `SearchQueryResp`. -/
def SearchQueryResp.schema : Schema :=
  ⟨"SearchQueryResp", .ofList [
    (1, "docs", .repeated, SearchDoc.schema.kind),
    (2, "max_score", .optional, .float32),
    (3, "num_found", .optional, .uint32)]⟩

instance : Message SearchQueryResp where
  schema := SearchQueryResp.schema
  toRecord m :=
    (m.docs.map Message.toRecord, m.maxScore, m.numFound, ())
  ofRecord
    | (docs, maxScore, numFound, ()) =>
      { docs := docs.map Message.ofRecord, maxScore, numFound }
  ofRecord_toRecord m :=
    congrArg (fun docs => ({ m with docs } : SearchQueryResp))
      (Message.map_ofRecord_toRecord m.docs)
  toRecord_ofRecord _ :=
    Prod.ext (Message.map_toRecord_ofRecord _) rfl
  wellFormed := by decide

end StoreClient
