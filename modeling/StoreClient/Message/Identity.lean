import StoreClient.Message.Basic

/-!
# Error and identity messages

The error frame and the messages about who is talking to whom.
-/

namespace StoreClient

open Payload

/-- The error frame: why the server refused a request. -/
structure ErrorResp where
  errmsg : Bytes := []
  errcode : UInt32 := 0
  deriving DecidableEq, Repr, Inhabited

/-- The schema of `ErrorResp`. -/
def ErrorResp.schema : Schema :=
  ⟨"ErrorResp", .ofList [
    (1, "errmsg", .required, .bytes),
    (2, "errcode", .required, .uint32)]⟩

instance : Message ErrorResp where
  schema := ErrorResp.schema
  toRecord m :=
    (m.errmsg, m.errcode, ())
  ofRecord
    | (errmsg, errcode, ()) =>
      { errmsg, errcode }
  ofRecord_toRecord _ := rfl
  toRecord_ofRecord _ := rfl
  wellFormed := by decide

/-- The identity of a server. -/
structure ServerInfoResp where
  node : Option Bytes := none
  serverVersion : Option Bytes := none
  deriving DecidableEq, Repr, Inhabited

/-- The schema of `ServerInfoResp`. -/
def ServerInfoResp.schema : Schema :=
  ⟨"ServerInfoResp", .ofList [
    (1, "node", .optional, .bytes),
    (2, "server_version", .optional, .bytes)]⟩

instance : Message ServerInfoResp where
  schema := ServerInfoResp.schema
  toRecord m :=
    (m.node, m.serverVersion, ())
  ofRecord
    | (node, serverVersion, ()) =>
      { node, serverVersion }
  ofRecord_toRecord _ := rfl
  toRecord_ofRecord _ := rfl
  wellFormed := by decide

/-- The client identifier of a connection. -/
structure GetClientIdResp where
  clientId : Bytes := []
  deriving DecidableEq, Repr, Inhabited

/-- The schema of `GetClientIdResp`. -/
def GetClientIdResp.schema : Schema :=
  ⟨"GetClientIdResp", .ofList [
    (1, "client_id", .required, .bytes)]⟩

instance : Message GetClientIdResp where
  schema := GetClientIdResp.schema
  toRecord m :=
    (m.clientId, ())
  ofRecord
    | (clientId, ()) =>
      { clientId }
  ofRecord_toRecord _ := rfl
  toRecord_ofRecord _ := rfl
  wellFormed := by decide

/-- Sets the client identifier of a connection. -/
structure SetClientIdReq where
  clientId : Bytes := []
  deriving DecidableEq, Repr, Inhabited

/-- The schema of `SetClientIdReq`. -/
def SetClientIdReq.schema : Schema :=
  ⟨"SetClientIdReq", .ofList [
    (1, "client_id", .required, .bytes)]⟩

instance : Message SetClientIdReq where
  schema := SetClientIdReq.schema
  toRecord m :=
    (m.clientId, ())
  ofRecord
    | (clientId, ()) =>
      { clientId }
  ofRecord_toRecord _ := rfl
  toRecord_ofRecord _ := rfl
  wellFormed := by decide

end StoreClient
