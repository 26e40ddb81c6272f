import RequestGate.Description.Printer
import RequestGate.Description.Source
import RequestGate.Proofs.Fallible
import RequestGate.Proofs.Fields
import RequestGate.Proofs.ReferenceGraph

/-!
# Descriptions survive being written

A description that was read is written as JSON and read again without loss.  A record is read from an
object or from an array and is always written as an object of its present fields; a field that was
read is not written as `null`, which would be read as absent.

Main results:

- Theorem `Json.Record.field?_present`: the fields of a record that was written.
- Theorem `Json.Record.optional?_written_of_field`: a field that was read is read again from a record that
  was written.
- Theorem `Schema.survives`: a schema survives, however deep its properties are nested.
- Theorem `Description.ofJson?_toJson_of_parse`: the description of a text survives.
-/

namespace RequestGate

namespace Json

/-- The tokens of a text that is not empty: those after its first character or its first token. -/
theorem Token.tokensOnto?_cons (read : List Token) (c : Char) (rest : List Char) :
    tokensOnto? read (c :: rest) = if isBlank c then tokensOnto? read rest
      else (first? c rest).bind fun next => tokensOnto? (next.1 :: read) next.2 := by
  rw [tokensOnto?]
  split
  · rfl
  · cases first? c rest <;> rfl

namespace Record

variable {α : Type}

/-! ## Values that survive -/

/-- What is read from a value survives being written: it is not written as `null`, and it is read
again. -/
def Survives (read : Json → Option α) (write : α → Json) (value : Json) : Prop :=
  ∀ result, read value = some result → write result ≠ .null ∧ read (write result) = some result

theorem survives_string (value : Json) : Survives asString? .string value :=
  fun _ _ => ⟨Json.noConfusion, rfl⟩

theorem survives_bool (value : Json) : Survives asBool? .bool value :=
  fun _ _ => ⟨Json.noConfusion, rfl⟩

/-- A list of texts is read again from what it is written as. -/
theorem strings?_ofStrings (texts : List String) : strings? (.ofStrings texts) = some texts := by
  change (texts.map Json.string).mapM asString? = some texts
  induction texts with
  | nil => rfl
  | cons text rest ih =>
    rw [List.map_cons, List.mapM_cons, ih]
    rfl

/-- A value that is kept as it is survives unless it is `null`. -/
theorem survives_raw {value : Json} (h : value ≠ .null) : Survives some id value := by
  intro result hread
  cases hread
  exact ⟨h, rfl⟩

/-- What survives in every element of a list survives in the list. -/
theorem mapM_map_eq_some {β γ : Type} {read : γ → Option β} {write : β → γ} {items : List γ}
    {results : List β}
    (h : ∀ item ∈ items, ∀ result, read item = some result → read (write result) = some result)
    (hread : items.mapM read = some results) : (results.map write).mapM read = some results := by
  induction items generalizing results with
  | nil =>
    cases hread
    rfl
  | cons item rest ih =>
    obtain ⟨hitem, hrest⟩ := List.forall_mem_cons.1 h
    rw [List.mapM_cons] at hread
    obtain ⟨result, hresult, hread⟩ := Option.bind_eq_some_iff.1 hread
    obtain ⟨others, hothers, hread⟩ := Option.bind_eq_some_iff.1 hread
    cases hread
    rw [List.map_cons, List.mapM_cons, hitem result hresult, ih hrest hothers]
    rfl

/-- Reads an array of items of one kind. -/
def items? (read : Json → Option α) (value : Json) : Option (List α) :=
  value.asArray?.bind fun items => items.mapM read

/-- Items of one kind as an array. -/
def ofItems (write : α → Json) (results : List α) : Json :=
  .array (results.map write)

theorem survives_items {read : Json → Option α} {write : α → Json}
    (h : ∀ value, Survives read write value) (value : Json) :
    Survives (items? read) (ofItems write) value := by
  intro results hread
  obtain ⟨items, _, hitems⟩ := Option.bind_eq_some_iff.1 hread
  exact ⟨Json.noConfusion, mapM_map_eq_some (fun item _ result hitem => (h item result hitem).2) hitems⟩

/-- Reads an object with members of one kind, in their order. -/
def entries? (read : Json → Option α) (value : Json) : Option (Fields α) :=
  value.asObject?.bind fun members =>
    members.mapM fun (name, member) => (read member).map (name, ·)

/-- Named members of one kind as an object. -/
def ofEntries (write : α → Json) (results : Fields α) : Json :=
  .object (results.map fun (name, result) => (name, write result))

/-- An object survives when its members do. -/
theorem survives_entries {read : Json → Option α} {write : α → Json} {value : Json}
    (h : ∀ members, value = .object members → ∀ member ∈ members, Survives read write member.2) :
    Survives (entries? read) (ofEntries write) value := by
  intro results hread
  refine ⟨Json.noConfusion, ?_⟩
  cases value with
  | object members =>
    refine mapM_map_eq_some ?_ hread
    rintro ⟨name, member⟩ hmem result hresult
    obtain ⟨found, hfound, rfl⟩ := Option.map_eq_some_iff.1 hresult
    have hagain := (h members rfl _ hmem found hfound).2
    exact Option.map_eq_some_iff.2 ⟨found, hagain, rfl⟩
  | null | bool | number | string | array => cases hread

/-! ## Records that were read -/

/-- What is read of a record only: the value has the form of the record. -/
theorem ofRecord_eq_some_iff {order : List String} {value : Json} {reading : Option α} {result : α} :
    (if (!isRecord order value) = true then none else reading) = some result ↔
      isRecord order value = true ∧ reading = some result := by
  cases isRecord order value <;> simp

/-- The item of an array that stands for a field is one of its items. -/
theorem mem_of_positional? {name : String} {order : List String} {items : List Json} {found : Json}
    (h : positional? name order items = some found) : found ∈ items := by
  induction order generalizing items with
  | nil => cases h
  | cons field order ih =>
    cases items with
    | nil => cases h
    | cons item rest =>
      rw [positional?] at h
      split at h
      · cases h
        exact List.mem_cons_self
      · exact List.mem_cons_of_mem _ (ih h)

/-! ## Records that were written -/

/-- A field of a record that was written. -/
theorem field?_present {members : List (String × Option Json)} (hdistinct : Fields.Distinct members)
    (order : List String) (name : String) :
    field? order name (present members) = (Fields.get? name members).join := by
  simp only [present, field?]
  induction members with
  | nil => rfl
  | cons member rest ih =>
    obtain ⟨key, value⟩ := member
    obtain ⟨hnew, hrest⟩ := List.nodup_cons.1 hdistinct
    have hothers := ih hrest
    by_cases hkey : key = name
    · have hnone : Fields.get? name rest = none := Fields.get?_eq_none_iff.2 (hkey ▸ hnew)
      cases value <;> simp [Fields.get?_cons, hkey, hothers, hnone]
    · cases value <;> simp [Fields.get?_cons, hkey, hothers]

theorem optional?_of_ne_null {read : Json → Option α} {value : Json} (h : value ≠ .null) :
    optional? read (some value) = (read value).map some := by
  cases value with
  | null => exact absurd rfl h
  | bool | number | string | array | object => rfl

/-- A field that was read is read again from a record that was written with it, if its value survives. -/
theorem optional?_written_of_field {read : Json → Option α} {write : α → Json}
    {members : List (String × Option Json)} {order : List String} {name : String} {value : Json}
    {result : Option α} (hread : optional? read (field? order name value) = some result)
    (hsurvives : ∀ found, field? order name value = some found → found ≠ .null →
      Survives read write found)
    (hdistinct : Fields.Distinct members)
    (hmember : Fields.get? name members = some (result.map write)) :
    optional? read (field? order name (present members)) = some result := by
  rw [field?_present hdistinct, hmember, Option.join_some]
  cases hfield : field? order name value with
  | none =>
    rw [hfield] at hread
    cases hread
    rfl
  | some found =>
    by_cases hnull : found = .null
    · rw [hfield, hnull] at hread
      cases hread
      rfl
    · rw [hfield, optional?_of_ne_null hnull] at hread
      obtain ⟨kept, hkept, rfl⟩ := Option.map_eq_some_iff.1 hread
      obtain ⟨hpresent, hagain⟩ := hsurvives found hfield hnull kept hkept
      rw [Option.map_some, optional?_of_ne_null hpresent, hagain, Option.map_some]

/-- A field of a kind that survives is read again from a record that was written with it. -/
theorem optional?_written {read : Json → Option α} {write : α → Json}
    {members : List (String × Option Json)} {order : List String} {name : String} {value : Json}
    {result : Option α} (hread : optional? read (field? order name value) = some result)
    (hsurvives : ∀ found, Survives read write found) (hdistinct : Fields.Distinct members)
    (hmember : Fields.get? name members = some (result.map write)) :
    optional? read (field? order name (present members)) = some result :=
  optional?_written_of_field hread (fun found _ _ => hsurvives found) hdistinct hmember

/-- A field that is kept as it was read is read again from a record that was written with it. -/
theorem raw_written {members : List (String × Option Json)} {order : List String} {name : String}
    {value : Json} {result : Option Json}
    (hread : optional? some (field? order name value) = some result)
    (hdistinct : Fields.Distinct members) (hmember : Fields.get? name members = some result) :
    optional? some (field? order name (present members)) = some result := by
  refine optional?_written_of_field hread (fun _ _ => survives_raw) hdistinct ?_
  rw [hmember, Option.map_id]
  rfl

end Record
end Json

open Json.Record

/-! ## Schemas -/

theorem SchemaType.survives (value : Json) : Survives ofJson? toJson value := by
  intro result _
  cases result with
  | single name => exact ⟨Json.noConfusion, rfl⟩
  | union names =>
    have hnames := strings?_ofStrings names
    exact ⟨Json.noConfusion, Option.map_eq_some_iff.2 ⟨names, hnames, rfl⟩⟩

theorem RequiredMark.survives (value : Json) : Survives ofJson? toJson value := by
  intro result _
  cases result with
  | flag required => exact ⟨Json.noConfusion, rfl⟩
  | fields names =>
    have hnames := strings?_ofStrings names
    exact ⟨Json.noConfusion, Option.map_eq_some_iff.2 ⟨names, hnames, rfl⟩⟩

namespace Schema

/-- The schemas of properties are read one after another. -/
theorem schemas?_eq_mapM (members : List (String × Json)) :
    schemas? members = members.mapM fun (name, member) => (ofJson? member).map (name, ·) := by
  induction members with
  | nil => rfl
  | cons member rest ih =>
    obtain ⟨name, value⟩ := member
    simp only [schemas?, List.mapM_cons, ih]
    cases ofJson? value <;> rfl

theorem properties?_eq (value : Json) :
    properties? value = optional? (entries? ofJson?) (some value) := by
  cases value with
  | object members =>
    rw [properties?, schemas?_eq_mapM]
    rfl
  | null | bool | number | string | array => rfl

/-- The properties in an object are those of the first member with their name. -/
theorem memberProperties?_eq (members : List (String × Json)) :
    memberProperties? members =
      optional? (entries? ofJson?) (Fields.get? "properties" members) := by
  induction members with
  | nil => rfl
  | cons member rest ih =>
    obtain ⟨name, value⟩ := member
    rw [memberProperties?, Fields.get?_cons]
    by_cases hname : name = "properties"
    · rw [if_pos hname, if_pos hname, properties?_eq]
    · rw [if_neg hname, if_neg hname, ih]

/-- The properties in an array are those of the item in their place. -/
theorem itemProperties?_eq (items : List Json) :
    itemProperties? items =
      optional? (entries? ofJson?) (positional? "properties" fieldOrder items) := by
  match items with
  | [] | [_] => rfl
  | _ :: value :: _ =>
    rw [itemProperties?, properties?_eq]
    rfl

/-- A value has the form of a schema, and its fields are those of the schema. -/
structure IsReadFrom (schema : Schema) (value : Json) : Prop where
  record : isRecord fieldOrder value = true
  kind : optional? SchemaType.ofJson? (field? fieldOrder "type" value) = some schema.kind
  properties : optional? (entries? ofJson?) (field? fieldOrder "properties" value) =
    some schema.properties
  required : optional? RequiredMark.ofJson? (field? fieldOrder "required" value) =
    some schema.required
  format : optional? some (field? fieldOrder "x-format" value) = some schema.format
  formatOptions : optional? some (field? fieldOrder "x-format-options" value) =
    some schema.formatOptions

theorem ofJson?_eq_bind {value : Json} (h : isRecord fieldOrder value = true) :
    ofJson? value = (optional? (entries? ofJson?) (field? fieldOrder "properties" value)).bind
      (withProperties? value) := by
  cases value with
  | object members =>
    rw [ofJson?, memberProperties?_eq]
    rfl
  | array items =>
    rw [ofJson?, itemProperties?_eq]
    rfl
  | null | bool | number | string => cases h

theorem withProperties?_eq_some_iff {value : Json} {properties : Option (Fields Schema)}
    {schema : Schema} :
    withProperties? value properties = some schema ↔ isRecord fieldOrder value = true ∧
      optional? SchemaType.ofJson? (field? fieldOrder "type" value) = some schema.kind ∧
      properties = schema.properties ∧
      optional? RequiredMark.ofJson? (field? fieldOrder "required" value) = some schema.required ∧
      optional? some (field? fieldOrder "x-format" value) = some schema.format ∧
      optional? some (field? fieldOrder "x-format-options" value) = some schema.formatOptions := by
  obtain ⟨kind, own, required, format, formatOptions⟩ := schema
  unfold withProperties?
  rw [ofRecord_eq_some_iff]
  refine and_congr_right fun _ => ?_
  simp only [Option.bind_eq_bind, Option.bind_eq_some_iff]
  constructor
  · rintro ⟨_, hkind, _, hrequired, _, hformat, _, hoptions, hschema⟩
    cases hschema
    exact ⟨hkind, rfl, hrequired, hformat, hoptions⟩
  · rintro ⟨hkind, rfl, hrequired, hformat, hoptions⟩
    exact ⟨kind, hkind, required, hrequired, format, hformat, formatOptions, hoptions, rfl⟩

/-- A schema is read from a value that has the form of one, field by field. -/
theorem ofJson?_eq_some_iff {value : Json} {schema : Schema} :
    ofJson? value = some schema ↔ schema.IsReadFrom value := by
  have hrecord : ofJson? value = some schema → isRecord fieldOrder value = true := by
    intro h
    cases value with
    | object members => rfl
    | array items =>
      obtain ⟨properties, _, hread⟩ := Option.bind_eq_some_iff.1 h
      exact (withProperties?_eq_some_iff.1 hread).1
    | null | bool | number | string => cases h
  constructor
  · intro h
    rw [ofJson?_eq_bind (hrecord h)] at h
    obtain ⟨properties, hproperties, hread⟩ := Option.bind_eq_some_iff.1 h
    obtain ⟨hform, hkind, rfl, hrequired, hformat, hoptions⟩ := withProperties?_eq_some_iff.1 hread
    exact ⟨hform, hkind, hproperties, hrequired, hformat, hoptions⟩
  · intro h
    rw [ofJson?_eq_bind h.record]
    exact Option.bind_eq_some_iff.2 ⟨schema.properties, h.properties,
      withProperties?_eq_some_iff.2 ⟨h.record, h.kind, rfl, h.required, h.format, h.formatOptions⟩⟩

theorem membersJson_eq_map (properties : List (String × Schema)) :
    membersJson properties = properties.map fun (name, schema) => (name, schema.toJson) := by
  induction properties with
  | nil => rfl
  | cons property rest ih =>
    obtain ⟨name, schema⟩ := property
    rw [membersJson, ih]
    rfl

theorem toJson_eq (schema : Schema) :
    schema.toJson = present [("type", schema.kind.map SchemaType.toJson),
      ("properties", schema.properties.map (ofEntries toJson)),
      ("required", schema.required.map RequiredMark.toJson), ("x-format", schema.format),
      ("x-format-options", schema.formatOptions)] := by
  obtain ⟨kind, properties, required, format, formatOptions⟩ := schema
  cases properties with
  | none =>
    rw [toJson]
    rfl
  | some properties =>
    rw [toJson, membersJson_eq_map]
    rfl

/-- A schema survives when its properties do. -/
theorem survives_of_properties {value : Json}
    (hproperties : ∀ found, field? fieldOrder "properties" value = some found →
      Survives (entries? ofJson?) (ofEntries toJson) found) :
    Survives ofJson? toJson value := by
  intro schema hread
  have h := ofJson?_eq_some_iff.1 hread
  have hdistinct : fieldOrder.Nodup := by decide
  rw [toJson_eq, ofJson?_eq_some_iff]
  refine ⟨Json.noConfusion, ?_⟩
  constructor
  case record => rfl
  case kind => exact optional?_written h.kind SchemaType.survives hdistinct rfl
  case properties =>
    exact optional?_written_of_field h.properties (fun v hv _ => hproperties v hv) hdistinct rfl
  case required => exact optional?_written h.required RequiredMark.survives hdistinct rfl
  case format => exact raw_written h.format hdistinct rfl
  case formatOptions => exact raw_written h.formatOptions hdistinct rfl

/-- A schema survives, with the properties that it has at any depth. -/
theorem survives (value : Json) : Survives ofJson? toJson value := by
  -- The schemas of properties are read from members of a part of the value, so the induction carries
  -- both readings of a part.
  suffices hboth : Survives ofJson? toJson value ∧
      Survives (entries? ofJson?) (ofEntries toJson) value from hboth.1
  induction value using Json.inductionOn with
  | object members ih =>
    constructor
    · apply survives_of_properties
      intro found hfound
      exact (ih _ (Fields.mem_of_get? hfound)).2
    · apply survives_entries
      intro others hsame member hmember
      cases hsame
      exact (ih member hmember).1
  | array items ih =>
    constructor
    · apply survives_of_properties
      intro found hfound
      exact (ih found (mem_of_positional? hfound)).2
    · exact survives_entries fun _ h => nomatch h
  | null | bool | number | string =>
    constructor
    · exact survives_of_properties fun _ h => nomatch h
    · exact survives_entries fun _ h => nomatch h

end Schema

/-! ## Parameters and operations -/

namespace Parameter

/-- A value has the form of a parameter, and its fields are those of the parameter. -/
structure IsReadFrom (parameter : Parameter) (value : Json) : Prop where
  record : isRecord fieldOrder value = true
  name : optional? Json.asString? (field? fieldOrder "name" value) = some parameter.name
  location : optional? Json.asString? (field? fieldOrder "in" value) = some parameter.location
  kind : optional? Json.asString? (field? fieldOrder "type" value) = some parameter.kind
  required : optional? Json.asBool? (field? fieldOrder "required" value) = some parameter.required
  schema : optional? Schema.ofJson? (field? fieldOrder "schema" value) = some parameter.schema
  format : optional? some (field? fieldOrder "x-format" value) = some parameter.format
  formatOptions : optional? some (field? fieldOrder "x-format-options" value) =
    some parameter.formatOptions

/-- A parameter is read from a value that has the form of one, field by field. -/
theorem ofJson?_eq_some_iff {value : Json} {parameter : Parameter} :
    ofJson? value = some parameter ↔ parameter.IsReadFrom value := by
  unfold ofJson?
  rw [ofRecord_eq_some_iff]
  simp only [Option.bind_eq_bind, Option.bind_eq_some_iff]
  constructor
  · rintro ⟨hrecord, _, hname, _, hlocation, _, hkind, _, hrequired, _, hschema, _, hformat, _,
      hoptions, hparameter⟩
    cases hparameter
    exact ⟨hrecord, hname, hlocation, hkind, hrequired, hschema, hformat, hoptions⟩
  · rintro ⟨hrecord, hname, hlocation, hkind, hrequired, hschema, hformat, hoptions⟩
    exact ⟨hrecord, _, hname, _, hlocation, _, hkind, _, hrequired, _, hschema, _, hformat, _,
      hoptions, rfl⟩

/-- A parameter survives. -/
theorem survives (value : Json) : Survives ofJson? toJson value := by
  intro parameter hread
  have h := ofJson?_eq_some_iff.1 hread
  have hdistinct : fieldOrder.Nodup := by decide
  rw [ofJson?_eq_some_iff]
  refine ⟨Json.noConfusion, ?_⟩
  constructor
  case record => rfl
  case name => exact optional?_written h.name survives_string hdistinct rfl
  case location => exact optional?_written h.location survives_string hdistinct rfl
  case kind => exact optional?_written h.kind survives_string hdistinct rfl
  case required => exact optional?_written h.required survives_bool hdistinct rfl
  case schema => exact optional?_written h.schema Schema.survives hdistinct rfl
  case format => exact raw_written h.format hdistinct rfl
  case formatOptions => exact raw_written h.formatOptions hdistinct rfl

end Parameter

namespace Operation

/-- A value has the form of an operation, and its fields are those of the operation. -/
structure IsReadFrom (operation : Operation) (value : Json) : Prop where
  record : isRecord fieldOrder value = true
  operationId : optional? Json.asString? (field? fieldOrder "operationId" value) =
    some operation.operationId
  parameters : optional? (items? Parameter.ofJson?) (field? fieldOrder "parameters" value) =
    some operation.parameters
  controller : optional? Json.asString? (field? fieldOrder "x-controller" value) =
    some operation.controller

/-- An operation is read from a value that has the form of one, field by field. -/
theorem ofJson?_eq_some_iff {value : Json} {operation : Operation} :
    ofJson? value = some operation ↔ operation.IsReadFrom value := by
  unfold ofJson?
  rw [ofRecord_eq_some_iff]
  simp only [Option.bind_eq_bind, Option.bind_eq_some_iff]
  constructor
  · rintro ⟨hrecord, _, hid, _, hparameters, _, hcontroller, hoperation⟩
    cases hoperation
    exact ⟨hrecord, hid, hparameters, hcontroller⟩
  · rintro ⟨hrecord, hid, hparameters, hcontroller⟩
    exact ⟨hrecord, _, hid, _, hparameters, _, hcontroller, rfl⟩

/-- An operation survives. -/
theorem survives (value : Json) : Survives ofJson? toJson value := by
  intro operation hread
  have h := ofJson?_eq_some_iff.1 hread
  have hdistinct : fieldOrder.Nodup := by decide
  rw [ofJson?_eq_some_iff]
  refine ⟨Json.noConfusion, ?_⟩
  constructor
  case record => rfl
  case operationId => exact optional?_written h.operationId survives_string hdistinct rfl
  case parameters =>
    exact optional?_written h.parameters (survives_items Parameter.survives) hdistinct rfl
  case controller => exact optional?_written h.controller survives_string hdistinct rfl

end Operation

/-! ## Paths and descriptions -/

namespace PathItem

/-- A path is read from a value that has the form of one, method by method. -/
theorem ofJson?_eq_some_iff {value : Json} {item : PathItem} :
    ofJson? value = some item ↔ isRecord fieldOrder value = true ∧ ∀ verb,
      optional? Operation.ofJson? (field? fieldOrder verb.name value) = some (item.operation verb) := by
  unfold ofJson?
  simp only [Option.ite_none_right_eq_some, Bool.and_eq_true, List.all_eq_true, Option.some.injEq]
  constructor
  · rintro ⟨⟨hrecord, hall⟩, rfl⟩
    refine ⟨hrecord, fun verb => ?_⟩
    obtain ⟨operation, hoperation⟩ := Option.isSome_iff_exists.1 (hall verb (Verb.mem_all verb))
    simp only [hoperation, Option.join_some]
  · rintro ⟨hrecord, hall⟩
    refine ⟨⟨hrecord, fun verb _ => ?_⟩, ?_⟩
    · rw [hall verb]
      rfl
    · obtain ⟨operation⟩ := item
      simp only [hall, Option.join_some]

/-- The operations of a path survive. -/
theorem survives (value : Json) : Survives ofJson? toJson value := by
  intro item hread
  obtain ⟨_, hoperations⟩ := ofJson?_eq_some_iff.1 hread
  have hdistinct : Fields.Distinct
      (Verb.all.map fun verb => (verb.name, (item.operation verb).map Operation.toJson)) :=
    show fieldOrder.Nodup by decide
  rw [ofJson?_eq_some_iff]
  refine ⟨Json.noConfusion, rfl, ?_⟩
  intro verb
  refine optional?_written (hoperations verb) Operation.survives hdistinct ?_
  exact (Fields.get?_eq_some_iff_mem hdistinct).2 (List.mem_map.2 ⟨verb, Verb.mem_all verb, rfl⟩)

end PathItem

namespace Description

/-- A value has the form of a description, and its fields are those of the description; there are no
paths when the field is missing. -/
structure IsReadFrom (description : Description) (value : Json) : Prop where
  record : isRecord fieldOrder value = true
  swagger : optional? Json.asString? (field? fieldOrder "swagger" value) = some description.swagger
  openapi : optional? Json.asString? (field? fieldOrder "openapi" value) = some description.openapi
  paths : defaulted? [] (entries? PathItem.ofJson?) (field? fieldOrder "paths" value) =
    some description.paths

/-- A description is read from a value that has the form of one, field by field. -/
theorem ofJson?_eq_some_iff {value : Json} {description : Description} :
    ofJson? value = some description ↔ description.IsReadFrom value := by
  unfold ofJson?
  rw [ofRecord_eq_some_iff]
  simp only [Option.bind_eq_bind, Option.bind_eq_some_iff]
  constructor
  · rintro ⟨hrecord, _, hswagger, _, hopenapi, _, hpaths, hdescription⟩
    cases hdescription
    exact ⟨hrecord, hswagger, hopenapi, hpaths⟩
  · rintro ⟨hrecord, hswagger, hopenapi, hpaths⟩
    exact ⟨hrecord, _, hswagger, _, hopenapi, _, hpaths, rfl⟩

/-- The paths of a description are read again: they are always written. -/
theorem paths_written {description : Description} {value : Json}
    (h : description.IsReadFrom value) :
    entries? PathItem.ofJson? (ofEntries PathItem.toJson description.paths) =
      some description.paths := by
  have hread := h.paths
  cases hfield : field? fieldOrder "paths" value with
  | none =>
    rw [hfield] at hread
    rw [← Option.some.inj hread]
    rfl
  | some found =>
    rw [hfield] at hread
    exact (survives_entries (fun _ _ member _ => PathItem.survives member.2) _ hread).2

/-- A description survives. -/
theorem survives (value : Json) : Survives ofJson? toJson value := by
  intro description hread
  have h := ofJson?_eq_some_iff.1 hread
  have hdistinct : fieldOrder.Nodup := by decide
  rw [ofJson?_eq_some_iff]
  refine ⟨Json.noConfusion, ?_⟩
  constructor
  case record => rfl
  case swagger => exact optional?_written h.swagger survives_string hdistinct rfl
  case openapi => exact optional?_written h.openapi survives_string hdistinct rfl
  case paths =>
    have hfield : field? fieldOrder "paths" description.toJson =
        some (ofEntries PathItem.toJson description.paths) := by
      refine (field?_present ?_ _ _).trans ?_
      · exact hdistinct
      · rfl
    rw [hfield]
    exact paths_written h

/-- A description that a text holds was read from a document. -/
theorem exists_of_parse {format : DocumentFormat} {text : String} {description : Description}
    (h : parse format text = .ok description) : ∃ value, ofJson? value = some description := by
  obtain ⟨source, _, hsource⟩ := Fallible.bind_eq_ok_iff.1 h
  unfold ofDocument at hsource
  split at hsource
  · split at hsource
    · cases hsource
    · rename_i expanded _
      split at hsource
      · rename_i found hfound
        cases hsource
        exact ⟨expanded, hfound⟩
      · cases hsource
  · cases hsource

/-- The description of a text is read again, the same in every part, from the value that it is written
as. -/
theorem ofJson?_toJson_of_parse {format : DocumentFormat} {text : String} {description : Description}
    (h : parse format text = .ok description) : ofJson? description.toJson = some description := by
  obtain ⟨value, hvalue⟩ := exists_of_parse h
  exact (survives value description hvalue).2

/-- A text in JSON holds what the document holds that it denotes. -/
theorem parse_of_read? {text : String} {value : Json} (h : Json.read? text = some value) :
    parse .json text = ofDocument value := by
  unfold parse document
  simp only [h]
  rfl

/-- A text that gives an operation and its parameter as arrays, and a schema with a nested one. -/
def petsText : String :=
  "\x7b\"paths\":\x7b\"/pets\":\x7b\"get\":[null,[[\"pet\",\"body\",null,true," ++
  "[[\"object\"],\x7b\"id\":[\"string\"]\x7d,[\"id\"]]]]]\x7d\x7d\x7d"

/-- The document that the text denotes. -/
def petsDocument : Json :=
  .object [("paths", .object [("/pets", .object [("get", .array [.null, .array [
    .array [.string "pet", .string "body", .null, .bool true, .array [.ofStrings ["object"],
      .object [("id", .ofStrings ["string"])], .ofStrings ["id"]]]]])])])]

theorem read?_petsText : Json.read? petsText = some petsDocument := by
  have htokens : Json.Token.tokens? petsText.toList = some [.openObject, .text "paths", .colon,
      .openObject, .text "/pets", .colon, .openObject, .text "get", .colon, .openArray, .scalar .null,
      .comma, .openArray, .openArray, .text "pet", .comma, .text "body", .comma, .scalar .null, .comma,
      .scalar (.bool true), .comma, .openArray, .openArray, .text "object", .closeArray, .comma,
      .openObject, .text "id", .colon, .openArray, .text "string", .closeArray, .closeObject, .comma,
      .openArray, .text "id", .closeArray, .closeArray, .closeArray, .closeArray, .closeArray,
      .closeObject, .closeObject, .closeObject] := by
    unfold petsText Json.Token.tokens?
    simp [Json.Token.tokensOnto?_cons, Json.Token.tokensOnto?, Json.Token.first?,
      Json.Token.textBody?, Json.Token.word?, Json.Token.isBlank]
  unfold Json.read? Json.readWithin?
  rw [htokens]
  rfl

theorem petsText_survives : ∃ description, parse .json petsText = .ok description ∧
    description.paths.names = ["/pets"] ∧ ofJson? description.toJson = some description := by
  have hnames : (ofDocument petsDocument).map (fun description => description.paths.names) =
      .ok ["/pets"] := by
    rfl
  obtain ⟨description, hdescription, hnames⟩ := Fallible.map_eq_ok_iff.1 hnames
  have hparse := (parse_of_read? read?_petsText).trans hdescription
  exact ⟨description, hparse, hnames, ofJson?_toJson_of_parse hparse⟩

end Description
end RequestGate
