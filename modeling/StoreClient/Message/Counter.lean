import StoreClient.Message.Basic

/-!
# Counter messages

The messages that change and read counters.
-/

namespace StoreClient

open Payload

/-- Adds an amount to a counter. -/
structure CounterUpdateReq where
  bucket : Bytes := []
  key : Bytes := []
  amount : Int64 := 0
  w : Option UInt32 := none
  dw : Option UInt32 := none
  pw : Option UInt32 := none
  returnvalue : Option Bool := none
  deriving DecidableEq, Repr, Inhabited

/-- The schema of `CounterUpdateReq`. -/
def CounterUpdateReq.schema : Schema :=
  ⟨"CounterUpdateReq", .ofList [
    (1, "bucket", .required, .bytes),
    (2, "key", .required, .bytes),
    (3, "amount", .required, .sint64),
    (4, "w", .optional, .uint32),
    (5, "dw", .optional, .uint32),
    (6, "pw", .optional, .uint32),
    (7, "returnvalue", .optional, .bool)]⟩

instance : Message CounterUpdateReq where
  schema := CounterUpdateReq.schema
  toRecord m :=
    (m.bucket, m.key, m.amount, m.w, m.dw, m.pw, m.returnvalue, ())
  ofRecord
    | (bucket, key, amount, w, dw, pw, returnvalue, ()) =>
      { bucket, key, amount, w, dw, pw, returnvalue }
  ofRecord_toRecord _ := rfl
  toRecord_ofRecord _ := rfl
  wellFormed := by decide

/-- The value of the counter after an update, if it was asked for. -/
structure CounterUpdateResp where
  value : Option Int64 := none
  deriving DecidableEq, Repr, Inhabited

/-- The schema of `CounterUpdateResp`. -/
def CounterUpdateResp.schema : Schema :=
  ⟨"CounterUpdateResp", .ofList [
    (1, "value", .optional, .sint64)]⟩

instance : Message CounterUpdateResp where
  schema := CounterUpdateResp.schema
  toRecord m :=
    (m.value, ())
  ofRecord
    | (value, ()) =>
      { value }
  ofRecord_toRecord _ := rfl
  toRecord_ofRecord _ := rfl
  wellFormed := by decide

/-- Asks for the value of a counter. -/
structure CounterGetReq where
  bucket : Bytes := []
  key : Bytes := []
  r : Option UInt32 := none
  pr : Option UInt32 := none
  basicQuorum : Option Bool := none
  notfoundOk : Option Bool := none
  deriving DecidableEq, Repr, Inhabited

/-- The schema of `CounterGetReq`. -/
def CounterGetReq.schema : Schema :=
  ⟨"CounterGetReq", .ofList [
    (1, "bucket", .required, .bytes),
    (2, "key", .required, .bytes),
    (3, "r", .optional, .uint32),
    (4, "pr", .optional, .uint32),
    (5, "basic_quorum", .optional, .bool),
    (6, "notfound_ok", .optional, .bool)]⟩

instance : Message CounterGetReq where
  schema := CounterGetReq.schema
  toRecord m :=
    (m.bucket, m.key, m.r, m.pr, m.basicQuorum, m.notfoundOk, ())
  ofRecord
    | (bucket, key, r, pr, basicQuorum, notfoundOk, ()) =>
      { bucket, key, r, pr, basicQuorum, notfoundOk }
  ofRecord_toRecord _ := rfl
  toRecord_ofRecord _ := rfl
  wellFormed := by decide

/-- The value of a counter, if there is such a counter. -/
structure CounterGetResp where
  value : Option Int64 := none
  deriving DecidableEq, Repr, Inhabited

/-- The schema of `CounterGetResp`. -/
def CounterGetResp.schema : Schema :=
  ⟨"CounterGetResp", .ofList [
    (1, "value", .optional, .sint64)]⟩

instance : Message CounterGetResp where
  schema := CounterGetResp.schema
  toRecord m :=
    (m.value, ())
  ofRecord
    | (value, ()) =>
      { value }
  ofRecord_toRecord _ := rfl
  toRecord_ofRecord _ := rfl
  wellFormed := by decide

end StoreClient
