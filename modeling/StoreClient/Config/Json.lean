import StoreClient.Config
import StoreClient.Json

/-!
# Configurations as JSON

A configuration is written as an object with its fields in order. It is read from an object with its
fields in any order, where a missing field has its default and an unknown one is ignored, or from an
array of the fields in order, where those at the end may be missing. A field that occurs twice, a
value of another type and a number out of range are refused; only the two times may be null.
-/

namespace StoreClient

namespace Json

/-- The values given for the named members of an object. Every name has to be a text, and none of
the named ones may occur twice. -/
def members? (names : List String) (members : List (List Char × Json)) :
    Option (List (Option Json)) := do
  let named ← members.mapM fun (raw, value) => do
    return (String.ofList (← unescape? raw), value)
  names.mapM fun name =>
    match named.filter (·.1 == name) with
    | [] => some none
    | [(_, value)] => some (some value)
    | _ => none

/-- The values given for the named fields, by an object or, in order, by an array that has no more
elements than there are fields. -/
def fields? (names : List String) : Json → Option (List (Option Json))
  | object members => members? names members
  | array elements =>
    if names.length < elements.length then none
    else some (elements.map some ++ List.replicate (names.length - elements.length) none)
  | _ => none

/-- A truth value. -/
def bool? : Json → Option Bool
  | bool b => some b
  | _ => none

/-- A number below the bound. -/
def natBelow? (bound : Nat) (j : Json) : Option Nat := do
  let n ← j.nat?
  if n < bound then return n else none

/-- A port number. -/
def uint16? (j : Json) : Option UInt16 := (j.natBelow? 0x10000).map UInt16.ofNat

/-- A 32-bit number. -/
def uint32? (j : Json) : Option UInt32 := (j.natBelow? 0x100000000).map UInt32.ofNat

/-- A 64-bit number. -/
def uint64? (j : Json) : Option UInt64 := (j.natBelow? 0x10000000000000000).map UInt64.ofNat

/-- A 64-bit number or null. -/
def optionalUInt64? : Json → Option (Option UInt64)
  | null => some none
  | j => j.uint64?.map some

/-- The elements of an array, each read by `read`. -/
def arrayOf? {α : Type} (read : Json → Option α) : Json → Option (List α)
  | array elements => elements.mapM read
  | _ => none

/-- A field that has a default. -/
def field? {α : Type} (default : α) (read : Json → Option α) : Option Json → Option α
  | none => some default
  | some value => read value

end Json

namespace HostConfig

/-- The names of the fields. -/
def fieldNames : List String := ["host", "port", "max_connections"]

/-- The object that describes a cluster member. -/
def toJson (h : HostConfig) : Json :=
  .object (fieldNames.map (·.toList) |>.zip
    [.ofText h.host, .ofNat h.port.toNat, .ofNat h.maxConnections.toNat])

/-- The cluster member that a value describes. -/
def ofJson? (j : Json) : Option HostConfig := do
  match ← j.fields? fieldNames with
  | [some host, some port, maxConnections] =>
    return {
      host := ← host.text?
      port := ← port.uint16?
      maxConnections := ← Json.field? 0 Json.uint64? maxConnections }
  | _ => none

end HostConfig

namespace Config

/-- The names of the fields. -/
def fieldNames : List String :=
  ["hosts", "max_total", "lazy_connect", "connect_timeout_ms", "operation_timeout_ms",
   "max_frame_len", "nodelay"]

/-- The value of a time limit. -/
def timeToJson (t : Option UInt64) : Json := t.elim .null fun ms => .ofNat ms.toNat

/-- The object that describes a configuration. -/
def toJson (c : Config) : Json :=
  .object (fieldNames.map (·.toList) |>.zip
    [.array (c.hosts.map HostConfig.toJson), .ofNat c.maxTotal.toNat, .bool c.lazyConnect,
     timeToJson c.connectTimeout, timeToJson c.operationTimeout, .ofNat c.maxFrameLength.toNat,
     .bool c.nodelay])

/-- The configuration that a value describes. -/
def ofJson? (j : Json) : Option Config := do
  let d : Config := {}
  match ← j.fields? fieldNames with
  | [hosts, maxTotal, lazyConnect, connectTimeout, operationTimeout, maxFrameLength, nodelay] =>
    return {
      hosts := ← Json.field? d.hosts (Json.arrayOf? HostConfig.ofJson?) hosts
      maxTotal := ← Json.field? d.maxTotal Json.uint64? maxTotal
      lazyConnect := ← Json.field? d.lazyConnect Json.bool? lazyConnect
      connectTimeout := ← Json.field? d.connectTimeout Json.optionalUInt64? connectTimeout
      operationTimeout := ← Json.field? d.operationTimeout Json.optionalUInt64? operationTimeout
      maxFrameLength := ← Json.field? d.maxFrameLength Json.uint32? maxFrameLength
      nodelay := ← Json.field? d.nodelay Json.bool? nodelay }
  | _ => none

/-- A configuration as a text. -/
def toText (c : Config) : String := c.toJson.render

/-- The configuration that a text describes, if a client can work with it. -/
def ofText (text : String) : Except Fault Config := do
  match (Json.parse? text).bind ofJson? with
  | none => throw (.configuration .invalidJson)
  | some c =>
    c.validate
    return c

end Config

end StoreClient
