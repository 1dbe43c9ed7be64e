import Mathlib
import StoreClient.Config.Json
import StoreClient.Proofs.JsonParser
import StoreClient.Proofs.Validation

/-!
# Configurations from texts

A value describes a configuration (`Describes`) if it is the object that is written for it, but for
fields that are left out, fields of other names and the order of them all. Such an object holds
each of the other fields once, so that it is found by its name (`Json.Holds.fields?`), and the rest
of the object does not matter.

So what a text of such a value is read as depends on what is left out alone: it is the configuration
with the defaults of that, if it is valid (`ofText_exact`).
-/

namespace StoreClient

namespace Json

/-! ### Objects -/

/-- Fields as members of an object. -/
def membersOf (fields : List (String × Json)) : List (List Char × Json) :=
  fields.map fun f => (f.1.toList, f.2)

/-- An object with those of the fields that are not omitted, in any order, and with other members,
whose names are not among those of the fields. -/
inductive Holds (omitted : String → Bool) (fields : List (String × Json)) : Json → Prop where
  | mk (others : List (List Char × Json)) {members : List (List Char × Json)} :
    members.Perm (membersOf (fields.filter (!omitted ·.1)) ++ others) →
    (∀ m ∈ others, ∃ name, unescape? m.1 = some name ∧ String.ofList name ∉ fields.map (·.1)) →
    Holds omitted fields (object members)

/-- A name that is written without escapes. -/
def Plain (name : String) : Prop := name.toList.flatMap escapeChar = name.toList

instance : DecidablePred Plain := fun name =>
  inferInstanceAs (Decidable (name.toList.flatMap escapeChar = name.toList))

section Holds

variable {omitted : String → Bool} {fields : List (String × Json)} {names : List String}
  {value : Json} {name : String}

/-- A plain name is read as it is written. -/
lemma Plain.unescape? (h : Plain name) : unescape? name.toList = some name.toList := by
  conv_lhs => rw [← h]
  exact unescape?_escape name.toList

/-- A plain name may stand in a text as it is. -/
lemma Plain.raw (h : Plain name) : Raw name.toList := h ▸ raw_escape name.toList

/-- What is read one by one is read as a list. -/
lemma mapM_eq_some {α β : Type} {f : α → Option β} {as : List α} {bs : List β}
    (h : List.Forall₂ (fun a b => f a = some b) as bs) : as.mapM f = some bs := by
  induction h with
  | nil => rfl
  | cons one _ ih =>
    rw [List.mapM_cons, one, ih]
    rfl

/-- Where names differ, a field is the only one of its name. -/
lemma filter_name (distinct : (fields.map (·.1)).Nodup) {f : String × Json} (m : f ∈ fields) :
    fields.filter (·.1 == f.1) = [f] := by
  induction fields with
  | nil => cases m
  | cons g fields ih =>
    obtain ⟨fresh, distinct⟩ := List.nodup_cons.1 distinct
    rcases List.mem_cons.1 m with rfl | m
    · have others : fields.filter (·.1 == f.1) = [] := by
        rw [List.filter_eq_nil_iff]
        intro g m e
        exact fresh (List.mem_map.2 ⟨g, m, beq_iff_eq.1 e⟩)
      rw [List.filter_cons, if_pos (beq_self_eq_true f.1), others]
    · have other : g.1 ≠ f.1 := fun same => fresh (List.mem_map.2 ⟨f, m, same.symm⟩)
      rw [List.filter_cons_of_neg (by simpa using other), ih distinct m]

/-- All names of an object are texts. Those of its fields are there in some order, and the others
are different. -/
lemma exists_named {members others : List (List Char × Json)} (plain : ∀ f ∈ fields, Plain f.1)
    (order : members.Perm (membersOf fields ++ others))
    (texts : ∀ m ∈ others, ∃ name, unescape? m.1 = some name ∧ String.ofList name ∉ names) :
    ∃ named others,
      members.mapM (fun m => do return (String.ofList (← unescape? m.1), m.2)) = some named ∧
      named.Perm (fields ++ others) ∧ ∀ o ∈ others, o.1 ∉ names := by
  let named (m : List Char × Json) : String × Json :=
    (String.ofList ((unescape? m.1).getD []), m.2)
  refine ⟨members.map named, others.map named, ?_, ?_, ?_⟩
  · apply mapM_eq_some
    rw [List.forall₂_map_right_iff]
    refine List.forall₂_same.2 fun m listed => ?_
    have known : ∃ name, unescape? m.1 = some name := by
      rcases List.mem_append.1 (order.mem_iff.1 listed) with field | other
      · obtain ⟨f, here, rfl⟩ := List.mem_map.1 field
        exact ⟨_, (plain f here).unescape?⟩
      · obtain ⟨name, e, _⟩ := texts m other
        exact ⟨name, e⟩
    obtain ⟨name, e⟩ := known
    simp [named, e]
  · have given : (membersOf fields).map named = fields := by
      rw [membersOf, List.map_map]
      refine (List.map_congr_left fun f here => ?_).trans (List.map_id fields)
      simp [named, (plain f here).unescape?]
    have arranged := order.map named
    rwa [List.map_append, given] at arranged
  · intro o listed
    obtain ⟨m, other, rfl⟩ := List.mem_map.1 listed
    obtain ⟨name, e, foreign⟩ := texts m other
    simpa [named, e] using foreign

/-- Each field of an object is found by its name, unless it is omitted. -/
lemma Holds.fields? (h : Holds omitted fields value) (plain : ∀ f ∈ fields, Plain f.1)
    (distinct : (fields.map (·.1)).Nodup) :
    value.fields? (fields.map (·.1)) =
      some (fields.map fun f => if omitted f.1 then none else some f.2) := by
  obtain ⟨others, order, unknown⟩ := h
  obtain ⟨named, foreign, read, order, unknown⟩ :=
    exists_named (fun f kept => plain f (List.mem_of_mem_filter kept)) order unknown
  show members? _ _ = _
  unfold members?
  rw [read]
  apply mapM_eq_some
  rw [List.forall₂_map_left_iff, List.forall₂_map_right_iff]
  refine List.forall₂_same.2 fun f m => ?_
  have others_ : foreign.filter (·.1 == f.1) = [] := by
    rw [List.filter_eq_nil_iff]
    intro o listed e
    exact unknown o listed (beq_iff_eq.1 e ▸ List.mem_map_of_mem m)
  have found := order.filter (·.1 == f.1)
  rw [List.filter_append, others_, List.append_nil, List.filter_comm,
    filter_name distinct m] at found
  -- At most one member is left, so that there is only one order.
  cases o : omitted f.1 with
  | true =>
    have nothing : named.filter (·.1 == f.1) = [] := by
      apply List.Perm.eq_nil
      simpa [o] using found
    rw [nothing]
    rfl
  | false =>
    have one : named.filter (·.1 == f.1) = [f] := by
      apply List.perm_singleton.1
      simpa [o] using found
    rw [one]
    rfl

/-- An object holds the fields that it is made of. -/
lemma holds_membersOf (fields : List (String × Json)) :
    Holds (fun _ => false) fields (object (membersOf fields)) := by
  apply Holds.mk []
  · simp
  · exact List.forall_mem_nil _

/-- An object of plain names is spelled by the text that is written for it. -/
lemma spells_membersOf (plain : ∀ f ∈ fields, Plain f.1)
    (values : ∀ f ∈ fields, Spells f.2 f.2.renderValue) :
    Spells (object (membersOf fields)) (object (membersOf fields)).renderValue := by
  apply spells_object
  intro m listed
  obtain ⟨f, here, rfl⟩ := List.mem_map.1 listed
  exact ⟨(plain f here).raw, values f here⟩

end Holds

/-! ### Values -/

section read

/-- A number below the bound is read back. -/
lemma natBelow?_ofNat {bound n : Nat} (inside : n < bound) :
    (ofNat n).natBelow? bound = some n := by
  simp [natBelow?, inside]

/-- A number of 16 bits is read back. -/
@[simp] lemma uint16?_ofNat (n : UInt16) : (ofNat n.toNat).uint16? = some n := by
  rw [uint16?, natBelow?_ofNat n.toNat_lt, Option.map_some, UInt16.ofNat_toNat]

/-- A number of 32 bits is read back. -/
@[simp] lemma uint32?_ofNat (n : UInt32) : (ofNat n.toNat).uint32? = some n := by
  rw [uint32?, natBelow?_ofNat n.toNat_lt, Option.map_some, UInt32.ofNat_toNat]

/-- A number of 64 bits is read back. -/
@[simp] lemma uint64?_ofNat (n : UInt64) : (ofNat n.toNat).uint64? = some n := by
  rw [uint64?, natBelow?_ofNat n.toNat_lt, Option.map_some, UInt64.ofNat_toNat]

/-- A field that may be left out is read, or has its default. -/
lemma field?_ite {α : Type} {default a : α} {read : Json → Option α} {value : Json}
    (e : read value = some a) (omitted : Bool) :
    field? default read (if omitted then none else some value) =
      some (if omitted then default else a) := by
  cases omitted with
  | false => exact e
  | true => rfl

end read

end Json

namespace HostConfig

/-- The fields of the object that describes a cluster member. -/
def fields (h : HostConfig) : List (String × Json) :=
  fieldNames.zip [.ofText h.host, .ofNat h.port.toNat, .ofNat h.maxConnections.toNat]

/-- The cluster member with the default of its limit, if that is left out. -/
def reduce (unlimited : Bool) (h : HostConfig) : HostConfig :=
  if unlimited then { host := h.host, port := h.port } else h

/-- A value is an object that describes a cluster member, perhaps without its limit, with its fields
in any order and between others. -/
def Describes (unlimited : Bool) (h : HostConfig) (value : Json) : Prop :=
  value.Holds (fun name => unlimited && name == "max_connections") h.fields

/-- The fields of a host have plain names. -/
lemma plain_fields (h : HostConfig) : ∀ f ∈ h.fields, Json.Plain f.1 := by
  simp only [fields, fieldNames, List.zip_cons_cons, List.zip_nil_left, List.forall_mem_cons]
  decide

/-- An object that describes a host is read as the host, with defaults for what is left out. -/
lemma ofJson?_of_describes {unlimited : Bool} {h : HostConfig} {value : Json}
    (d : h.Describes unlimited value) : ofJson? value = some (h.reduce unlimited) := by
  have read : value.fields? fieldNames =
      some [some (.ofText h.host), some (.ofNat h.port.toNat),
        if unlimited then none else some (.ofNat h.maxConnections.toNat)] := by
    simpa [fields, fieldNames] using d.fields? h.plain_fields (by simp [fields, fieldNames])
  unfold ofJson?
  simp only [read, Json.field?_ite (Json.uint64?_ofNat h.maxConnections), Json.text?_ofText,
    Json.uint16?_ofNat, bind, Option.bind, pure]
  cases unlimited <;> rfl

/-- The object of a host is spelled by the text that is written for it. -/
lemma spells_toJson (h : HostConfig) : h.toJson.Spells h.toJson.renderValue := by
  refine Json.spells_membersOf h.plain_fields ?_
  simp only [fields, fieldNames, List.zip_cons_cons, List.zip_nil_left, List.forall_mem_cons]
  exact ⟨Json.spells_ofText _, Json.spells_ofNat _, Json.spells_ofNat _, List.forall_mem_nil _⟩

end HostConfig

namespace Config

/-- What is left out where a configuration is written: fields of its own, by their names, and the
limits of hosts, by their positions. -/
structure Omission where
  field : String → Bool
  limit : Nat → Bool

/-- The fields of the object that describes a configuration whose hosts have these values. -/
def fields (c : Config) (hosts : List Json) : List (String × Json) :=
  fieldNames.zip
    [.array hosts, .ofNat c.maxTotal.toNat, .bool c.lazyConnect, timeToJson c.connectTimeout,
      timeToJson c.operationTimeout, .ofNat c.maxFrameLength.toNat, .bool c.nodelay]

/-- The configuration with the defaults of what is left out. -/
def reduce (o : Omission) (c : Config) : Config :=
  let d : Config := {}
  { hosts :=
      if o.field "hosts" then d.hosts else c.hosts.zipIdx.map fun (h, i) => h.reduce (o.limit i)
    maxTotal := if o.field "max_total" then d.maxTotal else c.maxTotal
    lazyConnect := if o.field "lazy_connect" then d.lazyConnect else c.lazyConnect
    connectTimeout := if o.field "connect_timeout_ms" then d.connectTimeout else c.connectTimeout
    operationTimeout :=
      if o.field "operation_timeout_ms" then d.operationTimeout else c.operationTimeout
    maxFrameLength := if o.field "max_frame_len" then d.maxFrameLength else c.maxFrameLength
    nodelay := if o.field "nodelay" then d.nodelay else c.nodelay }

/-- A value is an object that describes a configuration but for what is left out, with its fields
and those of its hosts in any order and between others. -/
def Describes (o : Omission) (c : Config) (value : Json) : Prop :=
  ∃ hosts,
    List.Forall₂ (fun (h, i) host => HostConfig.Describes (o.limit i) h host) c.hosts.zipIdx hosts ∧
    value.Holds o.field (c.fields hosts)

section Describes

variable {o : Omission} {c : Config} {value : Json} {hosts : List Json}

/-- The fields of a configuration have plain names. -/
lemma plain_fields (c : Config) (hosts : List Json) : ∀ f ∈ c.fields hosts, Json.Plain f.1 := by
  simp only [fields, fieldNames, List.zip_cons_cons, List.zip_nil_left, List.forall_mem_cons]
  decide

/-- A time that may be missing is read back. -/
lemma optionalUInt64?_timeToJson (t : Option UInt64) :
    (timeToJson t).optionalUInt64? = some t := by
  cases t with
  | none => rfl
  | some n =>
    show (Json.ofNat n.toNat).uint64?.map some = _
    rw [Json.uint64?_ofNat, Option.map_some]

/-- An object that describes a configuration is read as it, with defaults for what is left out. -/
lemma ofJson?_of_describes (d : c.Describes o value) : ofJson? value = some (c.reduce o) := by
  obtain ⟨hosts, each, holds⟩ := d
  have read : value.fields? fieldNames =
      some
        [if o.field "hosts" then none else some (.array hosts),
          if o.field "max_total" then none else some (.ofNat c.maxTotal.toNat),
          if o.field "lazy_connect" then none else some (.bool c.lazyConnect),
          if o.field "connect_timeout_ms" then none else some (timeToJson c.connectTimeout),
          if o.field "operation_timeout_ms" then none else some (timeToJson c.operationTimeout),
          if o.field "max_frame_len" then none else some (.ofNat c.maxFrameLength.toNat),
          if o.field "nodelay" then none else some (.bool c.nodelay)] :=
    holds.fields? (c.plain_fields hosts) (by simp [fields, fieldNames])
  have listed : (Json.array hosts).arrayOf? HostConfig.ofJson? =
      some (c.hosts.zipIdx.map fun (h, i) => h.reduce (o.limit i)) := by
    apply Json.mapM_eq_some
    rw [List.forall₂_map_right_iff]
    exact each.flip.imp fun _ _ d => HostConfig.ofJson?_of_describes d
  have bool (b : Bool) : (Json.bool b).bool? = some b := rfl
  unfold ofJson?
  simp only [read, Json.field?_ite listed, Json.field?_ite (Json.uint64?_ofNat c.maxTotal),
    Json.field?_ite (bool c.lazyConnect),
    Json.field?_ite (optionalUInt64?_timeToJson c.connectTimeout),
    Json.field?_ite (optionalUInt64?_timeToJson c.operationTimeout),
    Json.field?_ite (Json.uint32?_ofNat c.maxFrameLength), Json.field?_ite (bool c.nodelay), bind,
    Option.bind, pure]
  rfl

/-- An omission of nothing. -/
def nothing : Omission := ⟨fun _ => false, fun _ => false⟩

/-- Where nothing is left out the configuration stays as it is. -/
lemma reduce_nothing (c : Config) : c.reduce nothing = c := by
  have hosts : (c.hosts.zipIdx.map fun (h, _) => h.reduce false) = c.hosts :=
    List.zipIdx_map_fst 0 c.hosts
  unfold reduce nothing
  simp [hosts]

/-- The object of a configuration describes all of it. -/
lemma describes_toJson (c : Config) : c.Describes nothing c.toJson := by
  refine ⟨c.hosts.map HostConfig.toJson, ?_, Json.holds_membersOf _⟩
  have listed : c.hosts.map HostConfig.toJson = c.hosts.zipIdx.map fun (h, _) => h.toJson := by
    conv_lhs => rw [← List.zipIdx_map_fst 0 c.hosts, List.map_map]
    rfl
  rw [listed, List.forall₂_map_right_iff]
  exact List.forall₂_same.2 fun (h, _) _ => Json.holds_membersOf h.fields

/-- A time that may be missing is spelled by the text that is written for it. -/
lemma spells_timeToJson (t : Option UInt64) :
    (timeToJson t).Spells (timeToJson t).renderValue := by
  cases t with
  | none => exact .null
  | some n => exact Json.spells_ofNat _

/-- The object of a configuration is spelled by the text that is written for it. -/
lemma spells_toJson (c : Config) : c.toJson.Spells c.toJson.renderValue := by
  have hosts : ∀ host ∈ c.hosts.map HostConfig.toJson, host.Spells host.renderValue :=
    List.forall_mem_map.2 fun h _ => h.spells_toJson
  refine Json.spells_membersOf (c.plain_fields (c.hosts.map HostConfig.toJson)) ?_
  simp only [fields, fieldNames, List.zip_cons_cons, List.zip_nil_left, List.forall_mem_cons]
  exact ⟨Json.spells_array hosts, Json.spells_ofNat _, Json.spells_bool _, spells_timeToJson _,
    spells_timeToJson _, Json.spells_ofNat _, Json.spells_bool _, List.forall_mem_nil _⟩

/-- The text of a configuration is one of the object of it. -/
lemma spelled_toText (c : Config) : c.toJson.Spelled c.toText := Json.spelled_render c.spells_toJson

/-- A text of a value is read as what the value describes, if that is valid. -/
lemma ofText_of_describes {text : String} (d : c.Describes o value) (spelled : value.Spelled text) :
    ofText text = (c.reduce o).validate.map fun _ => c.reduce o := by
  unfold ofText
  rw [Json.parse?_eq_some_iff.2 spelled, Option.bind_some, ofJson?_of_describes d]
  simp only
  cases (c.reduce o).validate <;> rfl

end Describes

/-- The text of an object that describes a configuration but for what is left out, in any order and
between fields of other names, is read as the configuration with the defaults of what is left out,
if it is valid. Otherwise it is refused for what `validate` finds wrong with it. So the text of a
valid configuration is read as that configuration. -/
theorem ofText_exact (c : Config) :
    (∀ {o : Omission} {value : Json} {text : String},
      c.Describes o value → value.Spelled text →
        ofText text = (c.reduce o).validate.map (fun _ => c.reduce o) ∧
          ∀ fault, ofText text = .error fault → ∃ cause, fault = .configuration cause) ∧
      (c.validate = .ok () → ofText c.toText = .ok c) := by
  constructor
  · intro o value text d spelled
    have read := ofText_of_describes d spelled
    refine ⟨read, fun fault e => ?_⟩
    rw [read] at e
    cases checked : (c.reduce o).validate with
    | ok _ =>
      rw [checked] at e
      cases e
    | error cause =>
      rw [checked] at e
      cases e
      exact validate_error checked
  · intro valid
    rw [ofText_of_describes c.describes_toJson c.spelled_toText, reduce_nothing, valid]
    rfl

/-- A configuration that is refused: connections are to be opened ahead without a bound. -/
def unbounded : Config where
  hosts := [{ host := "a\"b", port := 9000, maxConnections := 2 }]
  maxTotal := 0
  lazyConnect := false

/-- With the default of the bound `unbounded` is accepted. In the text the limit of the host is left
out as well, its fields are in another order, and one field is not known. -/
theorem ofText_exact_unbounded :
    let bounded : Config := { hosts := [{ host := "a\"b", port := 9000 }], lazyConnect := false }
    let text := " \x7b\"x\":[1.5,null],\"hosts\":[\x7b\"port\":9000,\"host\":\"a\\\"b\"\x7d]," ++
      "\"lazy_connect\":false\x7d"
    unbounded.validate ≠ .ok () ∧ ofText text = .ok bounded ∧
      ofText bounded.toText = .ok bounded := by
  intro bounded text
  let o : Omission := ⟨fun name => name != "hosts" && name != "lazy_connect", fun _ => true⟩
  let unknown : Json := .array [.number ['1', '.', '5'], .null]
  let host : Json :=
    .object (Json.membersOf [("port", .ofNat 9000), ("host", .ofText "a\"b")])
  let value : Json := .object
    (Json.membersOf [("x", unknown), ("hosts", .array [host]), ("lazy_connect", .bool false)])
  have described : unbounded.Describes o value := by
    refine ⟨[host], .cons (.mk [] ?_ (List.forall_mem_nil _)) .nil,
      .mk [("x".toList, unknown)] ?_ ?_⟩
    · exact List.Perm.swap _ _ _
    · exact (List.perm_append_singleton ("x".toList, unknown) _).symm
    · intro m listed
      rw [List.mem_singleton.1 listed]
      exact ⟨"x".toList, by decide, by decide⟩
  have rendered : value.Spells value.renderValue := by
    have one_half : Json.Literal ([] ++ ['1'] ++ ['.', '5'] ++ []) :=
      .mk (.inl rfl) (.digits ⟨by simp, by simp⟩ (by simp)) (.some_ ⟨by simp, by simp⟩) .none_
    have other : unknown.Spells unknown.renderValue := by
      apply Json.spells_array
      simp only [List.forall_mem_cons]
      exact ⟨.number one_half, .null, List.forall_mem_nil _⟩
    have host_ : host.Spells host.renderValue := by
      refine Json.spells_membersOf (by simp only [List.forall_mem_cons]; decide) ?_
      simp only [List.forall_mem_cons]
      exact ⟨Json.spells_ofNat _, Json.spells_ofText _, List.forall_mem_nil _⟩
    refine Json.spells_membersOf (by simp only [List.forall_mem_cons]; decide) ?_
    simp only [List.forall_mem_cons]
    exact ⟨other, Json.spells_array (by simpa using host_), Json.spells_bool _,
      List.forall_mem_nil _⟩
  have whole : text.toList = ' ' :: value.renderValue := by decide +kernel
  have spelled : value.Spelled text :=
    ⟨' ' :: value.renderValue, [], by rw [whole, List.append_nil], .blank rfl rendered,
      List.forall_mem_nil _⟩
  have valid : bounded.validate = .ok () := by decide
  refine ⟨by decide, ?_, (ofText_exact bounded).2 valid⟩
  obtain ⟨read, _⟩ := (ofText_exact unbounded).1 described spelled
  exact read

end Config

end StoreClient
