import RequestGate.Proofs.Admission
import RequestGate.Proofs.Conversion
import RequestGate.Proofs.PathParameters
import RequestGate.Proofs.Truncation
import RequestGate.Proofs.Urlencoding

/-!
# Missing fields

A field is reported as missing when its rule requires it and its bag has nothing for it, or `null`.
What a request sends goes through decoding, grouping of values with one name, and coercion before it is
looked up there.  None of these makes `null` out of a value or loses a name, so a field is missing
exactly when it is required and the request does not send it, whatever the text that it sends looks
like.

Main results:

- Theorem `Http.Bag.has_ofPairs_iff`: grouping keeps every name, and makes no `null`.
- Theorem `Gate.exists_error_at_iff`: what a check reports at a place.
- Theorem `Gate.exists_missing_iff`: the missing fields of a check, by the bags that it looks at.
- Theorem `Http.has_bagAt_iff`: a bag has a field exactly when the request sends it.
- Theorem `Http.missesUnsentOnly`: what a request is rejected for as missing.
-/

namespace RequestGate

/-! ## Bags with a value -/

namespace Fields

variable {α : Type}

/-- A table that gives each of some names a value has no other names. -/
theorem get?_map_names (f : String → α) (name : String) (names : List String) :
    get? name (names.map fun key => (key, f key)) = if name ∈ names then some (f name) else none := by
  induction names with
  | nil => rfl
  | cons key names ih =>
    rw [List.map_cons, get?_cons, ih]
    by_cases h : key = name
    · subst h
      simp
    · simp [h, Ne.symm h]

end Fields

/-- A bag has a value for a field, and the value is not `null`. -/
def Bag.Has (bag : Bag) (field : String) : Prop :=
  ∃ value, Fields.get? field bag = some value ∧ value ≠ .null

/-- A bag with a value for a field has the field when the value is not `null`. -/
theorem Bag.has_iff_of_get? {bag : Bag} {field : String} {value : Json}
    (h : Fields.get? field bag = some value) : bag.Has field ↔ value ≠ .null := by
  unfold Has
  rw [h]
  simp

/-- Without a value for a field a bag does not have it. -/
theorem Bag.not_has_of_get?_eq_none {bag : Bag} {field : String}
    (h : Fields.get? field bag = none) : ¬ bag.Has field := by
  rintro ⟨value, hvalue, _⟩
  rw [h] at hvalue
  cases hvalue

/-- Coercion makes no `null` and loses no field. -/
theorem Coercion.has_bag_iff {data : Bag} {field : String} :
    (Coercion.bag data).Has field ↔ data.Has field := by
  have hget := Checker.get?_bag field data
  cases hvalue : Fields.get? field data with
  | none =>
    rw [hvalue] at hget
    exact iff_of_false (Bag.not_has_of_get?_eq_none hget) (Bag.not_has_of_get?_eq_none hvalue)
  | some value =>
    rw [hvalue] at hget
    rw [Bag.has_iff_of_get? hget, Bag.has_iff_of_get? hvalue]
    cases value with
    | string text => exact iff_of_true (Checker.value_ne_null text) (by simp)
    | null | bool | number | array | object => rfl

/-! ## Missing fields of a check -/

/-- Rules require a field. -/
def FieldRules.Requires (rules : FieldRules) (field : String) : Prop :=
  ∃ rule, Fields.get? field rules = some rule ∧ rule.required = true

theorem Defect.code_eq_missing_iff {defect : Defect} :
    defect.code = "missing_field" ↔ defect = .missing := by
  cases defect <;> simp [code]

namespace Checker

/-- A field is missing when it is required and its bag does not have it. -/
theorem exists_fieldError?_missing_iff {checker : Checker} {data : Bag} {entry : String × Rule} :
    (∃ e, checker.fieldError? data entry = some e ∧ e.defect = .missing) ↔
      entry.2.required = true ∧ ¬ data.Has entry.1 := by
  have hlacking : Fields.get? entry.1 data = none ∨ Fields.get? entry.1 data = some .null →
      checker.fieldError? data entry =
        if entry.2.required then some (.missing entry.1) else none := by
    unfold fieldError?
    rintro (h | h) <;> rw [h]
  by_cases hhas : data.Has entry.1
  · obtain ⟨value, hget, hvalue⟩ := hhas
    refine iff_of_false ?_ fun h => h.2 ⟨value, hget, hvalue⟩
    rintro ⟨e, he, hmissing⟩
    rw [fieldError?_of_ne_null hget hvalue] at he
    split at he
    · cases he
    · cases he
      cases hmissing
  · have hlacks : Fields.get? entry.1 data = none ∨ Fields.get? entry.1 data = some .null := by
      cases hget : Fields.get? entry.1 data with
      | none => exact Or.inl rfl
      | some value =>
        rw [Bag.has_iff_of_get? hget, not_not] at hhas
        exact Or.inr (congrArg some hhas)
    rw [hlacking hlacks]
    by_cases hrequired : entry.2.required = true
    · rw [if_pos hrequired]
      exact iff_of_true ⟨_, rfl, rfl⟩ ⟨hrequired, hhas⟩
    · rw [if_neg hrequired]
      exact iff_of_false (fun ⟨_, he, _⟩ => nomatch he) fun h => hrequired h.1

end Checker

/-- A rejection reports a field at a place as missing. -/
def Rejection.ReportsMissing (rejection : Rejection) (location : Location) (field : String) : Prop :=
  ∃ e ∈ rejection.errors, e.location = some location ∧ e.field = field ∧
    e.defect.code = "missing_field"

namespace Gate

/-- A check of a request comes to a place. -/
def Visits {σ : Type} [Validator σ] (gate : Gate σ) (plan : Plan) (request : GateRequest)
    (location : Location) : Prop :=
  ∃ made ∈ gate.calls plan request, made.location = location

variable {gate : Gate Checker} {plan : Plan} {request : GateRequest}

/-- The failures of a call are those of the fields with rules. -/
theorem errors_call (gate : Gate Checker) (plan : Plan) (request : GateRequest)
    (entry : Location × FieldRules) :
    (gate.call plan request entry).errors =
      (entry.2.filterMap (gate.validator.fieldError? (plan.bagAt request entry.1))).map
        (FieldError.locate entry.1) := by
  have hverdict : (gate.call plan request entry).verdict =
      gate.validator.validate entry.2 (plan.bagAt request entry.1) := rfl
  unfold Call.errors
  rw [hverdict]
  unfold Checker.validate
  cases entry.2.filterMap (gate.validator.fieldError? (plan.bagAt request entry.1)) with
  | nil => rfl
  | cons first rest => rfl

/-- A rejection has the failures of the calls. -/
theorem exists_mem_errors_iff {e : FieldError} :
    (∃ rejection, (gate.check plan request).1 = .error rejection ∧ e ∈ rejection.errors) ↔
      ∃ made ∈ gate.calls plan request, e ∈ made.errors := by
  by_cases hpass : ∀ made ∈ gate.calls plan request, made.verdict = .ok ()
  · rw [check_of_passes hpass]
    refine iff_of_false (fun ⟨_, h, _⟩ => nomatch h) ?_
    rintro ⟨made, hmade, he⟩
    unfold Call.errors at he
    rw [hpass made hmade] at he
    exact absurd he List.not_mem_nil
  · rw [check_of_fails hpass]
    constructor
    · rintro ⟨_, hsame, he⟩
      cases hsame
      exact List.mem_flatMap.1 he
    · exact fun he => ⟨_, rfl, List.mem_flatMap.2 he⟩

/-- Calls are made with the rules for their places. -/
theorem exists_of_visits {location : Location} (h : gate.Visits plan request location) :
    gate.call plan request (location, plan.rules.fieldsAt location) ∈ gate.calls plan request := by
  obtain ⟨made, hmade, rfl⟩ := h
  obtain ⟨⟨location, rules⟩, hentry, rfl⟩ := exists_of_mem_callsFor hmade
  obtain rfl : rules = plan.rules.fieldsAt location := (LocationRules.mem_nonempty.1 hentry).1
  exact hmade

/-- A check comes to a place of the body only where the plan takes the body. -/
theorem needsBody_of_visits {location : Location} (h : gate.Visits plan request location)
    (hlocation : location = .formData ∨ location = .body) : plan.needsBody = true := by
  obtain ⟨made, hmade, rfl⟩ := h
  obtain ⟨entry, hentry, rfl⟩ := exists_of_mem_callsFor hmade
  by_contra hneeds
  obtain ⟨hform, hbody⟩ :=
    LocationRules.not_body_of_mem_nonempty hentry (Bool.eq_false_of_not_eq_true hneeds)
  exact hlocation.elim hform hbody

/-- What a check reports at a place is what the fields with rules there fail with, when it comes to the
place. -/
theorem exists_error_at_iff {location : Location} {e : FieldError} :
    (∃ rejection, (gate.check plan request).1 = .error rejection ∧ e ∈ rejection.errors ∧
      e.location = some location) ↔
    gate.Visits plan request location ∧ ∃ entry ∈ plan.rules.fieldsAt location, ∃ found,
      gate.validator.fieldError? (plan.bagAt request location) entry = some found ∧
        found.locate location = e := by
  constructor
  · rintro ⟨rejection, hcheck, he, hlocation⟩
    obtain ⟨made, hmade, he⟩ := exists_mem_errors_iff.1 ⟨rejection, hcheck, he⟩
    obtain rfl : made.location = location :=
      Option.some.inj ((Call.location_of_mem_errors he).symm.trans hlocation)
    refine ⟨⟨made, hmade, rfl⟩, ?_⟩
    obtain ⟨⟨place, rules⟩, hentry, rfl⟩ := exists_of_mem_callsFor hmade
    obtain rfl : rules = plan.rules.fieldsAt place := (LocationRules.mem_nonempty.1 hentry).1
    rw [errors_call] at he
    obtain ⟨found, hfound, rfl⟩ := List.mem_map.1 he
    obtain ⟨entry, hrule, hfield⟩ := List.mem_filterMap.1 hfound
    exact ⟨entry, hrule, found, hfield, rfl⟩
  · rintro ⟨hvisits, entry, hrule, found, hfield, rfl⟩
    have herror : found.locate location ∈
        (gate.call plan request (location, plan.rules.fieldsAt location)).errors := by
      rw [errors_call]
      exact List.mem_map_of_mem (List.mem_filterMap.2 ⟨entry, hrule, hfield⟩)
    obtain ⟨rejection, hcheck, he⟩ := exists_mem_errors_iff.2 ⟨_, exists_of_visits hvisits, herror⟩
    exact ⟨rejection, hcheck, he, rfl⟩

/-- A check reports a field as missing exactly when it comes to the place, the rules there require the
field and the bag does not have it. -/
theorem exists_missing_iff {location : Location} {field : String}
    (hdistinct : (plan.rules.fieldsAt location).Distinct) :
    (∃ rejection, (gate.check plan request).1 = .error rejection ∧
      rejection.ReportsMissing location field) ↔
    gate.Visits plan request location ∧ (plan.rules.fieldsAt location).Requires field ∧
      ¬ (plan.bagAt request location).Has field := by
  constructor
  · rintro ⟨rejection, hcheck, e, he, hlocation, rfl, hcode⟩
    obtain ⟨hvisits, ⟨key, rule⟩, hrule, found, hfield, rfl⟩ :=
      exists_error_at_iff.1 ⟨rejection, hcheck, he, hlocation⟩
    obtain rfl : found.field = key := Checker.field_of_fieldError? hfield
    obtain ⟨hrequired, hlacks⟩ := Checker.exists_fieldError?_missing_iff.1
      ⟨found, hfield, Defect.code_eq_missing_iff.1 hcode⟩
    exact ⟨hvisits, ⟨rule, (Fields.get?_eq_some_iff_mem hdistinct).2 hrule, hrequired⟩, hlacks⟩
  · rintro ⟨hvisits, ⟨rule, hget, hrequired⟩, hlacks⟩
    obtain ⟨found, hfield, hmissing⟩ := Checker.exists_fieldError?_missing_iff.2
      (⟨hrequired, hlacks⟩ : (field, rule).2.required = true ∧ _)
    obtain ⟨rejection, hcheck, he, hlocation⟩ := exists_error_at_iff.2
      ⟨hvisits, (field, rule), Fields.mem_of_get? hget, found, hfield, rfl⟩
    exact ⟨rejection, hcheck, _, he, hlocation, Checker.field_of_fieldError? hfield,
      Defect.code_eq_missing_iff.2 hmissing⟩

/-- The captured bag has the parameters of the template. -/
theorem has_captureBag_iff {path method : String} (hplan : gate.plan? path method = some plan)
    {field : String} :
    plan.captureBag.Has field ↔ .parameter field ∈ Route.templateSegments plan.route := by
  rw [← not_iff_not, ← get?_captureBag_eq_none_iff hplan]
  constructor
  · intro hlacks
    cases hget : Fields.get? field plan.captureBag with
    | none => rfl
    | some value => exact absurd ⟨value, hget, plan.ne_null_of_get?_captureBag hget⟩ hlacks
  · exact Bag.not_has_of_get?_eq_none

end Gate

/-! ## Bags of what is sent -/

namespace Http
namespace Bag

/-- The bag of pairs has the names of the pairs: grouping loses none and makes no `null`. -/
theorem has_ofPairs_iff {pairs : List (String × String)} {name : String} :
    (ofPairs pairs).Has name ↔ ∃ value, (name, value) ∈ pairs := by
  have hvalues : valuesOf name pairs ≠ [] ↔ ∃ value, (name, value) ∈ pairs := by
    simp only [Ne, List.eq_nil_iff_forall_not_mem, mem_valuesOf, not_forall, not_not]
  rw [← hvalues, Ne, ← grouped?_eq_none_iff]
  unfold RequestGate.Bag.Has
  rw [get?_ofPairs]
  cases hfound : grouped? (valuesOf name pairs) with
  | none => simp
  | some found =>
    have hnull : found ≠ .null := fun h => grouped?_ne_null _ (hfound.trans (congrArg some h))
    simp [hnull]

/-- The bag of header fields has their names. -/
theorem has_ofHeaders_iff {headers : Headers} {name : String} :
    (ofHeaders headers).Has name ↔ ∃ value, (name, value) ∈ headers := by
  unfold ofHeaders RequestGate.Bag.Has
  simp only [Fields.get?_map_names, List.mem_eraseDups]
  by_cases h : name ∈ headers.map Prod.fst
  · obtain ⟨⟨key, value⟩, hmem, rfl⟩ := List.mem_map.1 h
    rw [if_pos h]
    exact iff_of_true ⟨_, rfl, by simp⟩ ⟨value, hmem⟩
  · rw [if_neg h]
    refine iff_of_false (fun ⟨_, hnone, _⟩ => nomatch hnone) ?_
    exact fun ⟨value, hmem⟩ => h (List.mem_map_of_mem hmem)

/-- The media types of JSON are one of their own and those with its suffix. -/
theorem isJson_iff {mediaType : String} :
    isJson mediaType = true ↔
      mediaType = "application/json" ∨ "+json".toList <:+ mediaType.toList := by
  unfold isJson
  rw [Bool.or_eq_true, decide_eq_true_iff, String.endsWith_eq_endsWith_toSlice,
    String.Slice.endsWith_string_iff, String.copy_toSlice]

/-- Urlencoded data is no JSON. -/
theorem isJson_urlencoded : isJson "application/x-www-form-urlencoded" = false := by
  rw [← Bool.not_eq_true, isJson_iff]
  decide

end Bag

/-! ## What a request sends -/

namespace Request

/-- The decoded pairs of a query. -/
def queryPairs (request : Request) : List (String × String) :=
  (request.target.query.map fun query => Urlencoded.pairs (Utf8.encode query)).getD []

/-- The media type of a body, empty where none is declared. -/
def bodyKind (request : Request) : String :=
  (request.contentType?.map Bag.mediaType).getD ""

/-- The decoded pairs of a body of urlencoded data; other bodies have none. -/
def formPairs (request : Request) : List (String × String) :=
  if request.bodyKind = "application/x-www-form-urlencoded" then Urlencoded.pairs request.body
  else []

/-- A body of JSON has a member that is not `null`. -/
def HasMember (request : Request) (field : String) : Prop :=
  Bag.isJson request.bodyKind = true ∧ ∃ members value,
    Json.readBytes? request.body = some (.object members) ∧
      Fields.get? field members = some value ∧ value ≠ .null

/-- A body sends a field, as the name of a pair or as a member.  An empty body sends none. -/
def SendsInBody (request : Request) (field : String) : Prop :=
  request.body ≠ [] ∧ ((∃ value, (field, value) ∈ request.formPairs) ∨ request.HasMember field)

/-- A request sends a field for a place, with whatever value in a pair or a header field.  The path sends
the parameters of the template that it fits. -/
def Sends (request : Request) (template field : String) : Location → Prop
  | .query => ∃ value, (field, value) ∈ request.queryPairs
  | .header => ∃ value, (field, value) ∈ request.headers
  | .path => .parameter field ∈ Route.templateSegments template
  | .formData | .body => request.SendsInBody field

end Request

/-- The bag of a body has what the body sends. -/
theorem has_ofBody_iff {request : Request} {body : RequestGate.Bag} {field : String}
    (h : Bag.ofBody request.contentType? request.body = .ok body) :
    body.Has field ↔ request.SendsInBody field := by
  have hnothing : ¬ RequestGate.Bag.Has [] field := RequestGate.Bag.not_has_of_get?_eq_none rfl
  have hkind : (request.contentType?.map Bag.mediaType).getD "" = request.bodyKind := rfl
  unfold Request.SendsInBody
  unfold Bag.ofBody at h
  rw [hkind] at h
  by_cases hempty : request.body = []
  · rw [if_pos hempty] at h
    cases h
    exact iff_of_false hnothing fun h => h.1 hempty
  · rw [if_neg hempty] at h
    rw [and_iff_right hempty]
    unfold Request.formPairs Request.HasMember
    by_cases hjson : Bag.isJson request.bodyKind = true
    · rw [if_pos hjson] at h
      have hform : request.bodyKind ≠ "application/x-www-form-urlencoded" := by
        intro hform
        rw [hform, Bag.isJson_urlencoded] at hjson
        cases hjson
      rcases Bag.ofJson_cases request.body with ⟨members, hread, hbag⟩ | ⟨_, fault, _, hbag⟩
      · rw [hbag] at h
        cases h
        simp [hform, hjson, hread, RequestGate.Bag.Has]
      · rw [hbag] at h
        cases h
    · rw [if_neg hjson] at h
      by_cases hform : request.bodyKind = "application/x-www-form-urlencoded"
      · rw [if_pos hform] at h
        cases h
        rw [if_pos hform]
        unfold Bag.ofUrlencoded
        rw [Bag.has_ofPairs_iff]
        simp [hjson]
      · rw [if_neg hform] at h
        cases h
        rw [if_neg hform]
        simp [hjson, hnothing]

/-- The bag that is checked for a place has what the request sends for it. -/
theorem has_bagAt_iff {gate : Gate Checker} {plan : Plan} {limit : Nat} {request : Request}
    {body : RequestGate.Bag} (hplan : gate.plan? request.target.path request.method = some plan)
    (hread : BodyIsRead plan limit request body) {location : Location}
    (hvisits : gate.Visits plan (request.forGate body) location) {field : String} :
    (plan.bagAt (request.forGate body) location).Has field ↔
      request.Sends plan.route field location := by
  have hbody : location = .formData ∨ location = .body →
      (body.Has field ↔ request.SendsInBody field) := fun hlocation =>
    has_ofBody_iff (hread (Gate.needsBody_of_visits hvisits hlocation)).2
  cases location with
  | query =>
    show (Coercion.bag (Bag.ofQuery request.target.query)).Has field ↔
      ∃ value, (field, value) ∈ request.queryPairs
    rw [Coercion.has_bag_iff]
    unfold Request.queryPairs
    cases request.target.query with
    | none =>
      refine iff_of_false ?_ fun ⟨_, h⟩ => absurd h List.not_mem_nil
      exact RequestGate.Bag.not_has_of_get?_eq_none rfl
    | some query => exact Bag.has_ofPairs_iff
  | header => exact Bag.has_ofHeaders_iff
  | path =>
    rw [Gate.bagAt_path rfl]
    exact Gate.has_captureBag_iff hplan
  | formData => exact hbody (Or.inl rfl)
  | body => exact hbody (Or.inr rfl)

/-! ## Missing fields of a request -/

/-- A request is rejected, and a field at a place is reported as missing. -/
def IsMissing (gate : Gate Checker) (limit : Nat) (request : Request) (location : Location)
    (field : String) : Prop :=
  ∃ rejection, (admission gate limit request).1 = .rejected rejection ∧
    rejection.ReportsMissing location field

/-- A request with a plan and with a body that is read is rejected as its check says. -/
theorem isMissing_iff {gate : Gate Checker} {plan : Plan} {limit : Nat} {request : Request}
    {body : RequestGate.Bag} (hplan : gate.plan? request.target.path request.method = some plan)
    (hread : BodyIsRead plan limit request body) {location : Location} {field : String} :
    IsMissing gate limit request location field ↔
      ∃ rejection, (gate.check plan (request.forGate body)).1 = .error rejection ∧
        rejection.ReportsMissing location field := by
  have hplan' : gate.plan? (request.forGate body).path (request.forGate body).method =
      some plan := hplan
  unfold IsMissing
  rw [admission_eq_validate hplan hread, Gate.validate_of_plan? hplan']
  refine exists_congr fun rejection => and_congr_left fun _ => ?_
  cases (gate.check plan (request.forGate body)).1 with
  | ok => exact iff_of_false (fun h => nomatch h) (fun h => nomatch h)
  | error other => simp [Except.map, Admission.ofValidation]

/-- What a request with a plan is rejected for as missing, with the bag of its body that is read. -/
structure MissesUnsentOnly (gate : Gate Checker) (limit : Nat) (request : Request) (plan : Plan)
    (body : RequestGate.Bag) : Prop where
  /-- A field is missing exactly when its place is visited, the rules there require it, and the request
  does not send it. -/
  missing_iff : ∀ location field, IsMissing gate limit request location field ↔
    gate.Visits plan (request.forGate body) location ∧
      (plan.rules.fieldsAt location).Requires field ∧ ¬ request.Sends plan.route field location
  query_value : ∀ field value, (field, value) ∈ request.queryPairs →
    ¬ IsMissing gate limit request .query field
  header_value : ∀ field value, (field, value) ∈ request.headers →
    ¬ IsMissing gate limit request .header field
  path_value : ∀ field value, Fields.get? field plan.captures = some value →
    ¬ IsMissing gate limit request .path field
  form_value : ∀ field value, (field, value) ∈ request.formPairs →
    ¬ IsMissing gate limit request .formData field ∧ ¬ IsMissing gate limit request .body field

/-- Required fields that are not sent are missing, and no others are: no value that is sent in the query,
in the header, in the path or in a form counts as absent. -/
theorem missesUnsentOnly {description : Description} {settings : ValidationSettings}
    {gate : Gate Checker} (hprepare : Gate.prepare description settings = .ok gate) {plan : Plan}
    {limit : Nat} {request : Request} {body : RequestGate.Bag}
    (hplan : gate.plan? request.target.path request.method = some plan)
    (hread : BodyIsRead plan limit request body) :
    MissesUnsentOnly gate limit request plan body := by
  have hdistinct : ∀ location, (plan.rules.fieldsAt location).Distinct :=
    Description.distinct_fieldsAt_compile (Gate.compile_of_prepare hprepare)
      (RuleTable.lookup?_eq_some_iff.1 (Gate.plan?_eq_some_iff.1 hplan).2.2).1
  have hmissing : ∀ location field, IsMissing gate limit request location field ↔
      gate.Visits plan (request.forGate body) location ∧
        (plan.rules.fieldsAt location).Requires field ∧
          ¬ request.Sends plan.route field location := by
    intro location field
    rw [isMissing_iff hplan hread, Gate.exists_missing_iff (hdistinct location)]
    refine and_congr_right fun hvisits => and_congr_right fun _ => ?_
    rw [has_bagAt_iff hplan hread hvisits]
  have hsent : ∀ location field, request.Sends plan.route field location →
      ¬ IsMissing gate limit request location field :=
    fun location field hsends hmiss => ((hmissing location field).1 hmiss).2.2 hsends
  constructor
  case missing_iff => exact hmissing
  case query_value => exact fun field value hpair => hsent .query field ⟨value, hpair⟩
  case header_value => exact fun field value hheader => hsent .header field ⟨value, hheader⟩
  case path_value =>
    intro field value hvalue
    refine hsent .path field ?_
    have hname : field ∈ plan.captures.names := List.mem_map_of_mem (Fields.mem_of_get? hvalue)
    exact (Route.Index.mem_names_captures (Gate.plan?_eq_some_iff.1 hplan).2.1).1 hname
  case form_value =>
    intro field value hpair
    have hbody : request.body ≠ [] := by
      intro hempty
      unfold Request.formPairs at hpair
      rw [hempty] at hpair
      split at hpair <;> exact absurd hpair List.not_mem_nil
    exact ⟨hsent .formData field ⟨hbody, Or.inl ⟨value, hpair⟩⟩,
      hsent .body field ⟨hbody, Or.inl ⟨value, hpair⟩⟩⟩

/-- A request with the text `null` for a query parameter and without header fields. -/
def nullRequest : Request :=
  ⟨"GET", ⟨none, "", "/users", some "page=1&order=null"⟩, [], []⟩

/-- The hypotheses are satisfied where a header field is missing, and `null` is a text that is sent. -/
theorem nullRequest_missesUnsentOnly : ∃ (gate : Gate Checker) (plan : Plan),
    Gate.prepare Gate.demanding .default = .ok gate ∧
    gate.plan? nullRequest.target.path nullRequest.method = some plan ∧
    BodyIsRead plan 0 nullRequest [] ∧ MissesUnsentOnly gate 0 nullRequest plan [] ∧
    IsMissing gate 0 nullRequest .header "x-key" ∧ ¬ IsMissing gate 0 nullRequest .query "order" := by
  have hpairs : nullRequest.queryPairs = [("page", "1"), ("order", "null")] := by
    have hcomponents : nullRequest.queryPairs =
        [(Utf8.decodeLossy (Utf8.encode "page"), Utf8.decodeLossy (Utf8.encode "1")),
          (Utf8.decodeLossy (Utf8.encode "order"), Utf8.decodeLossy (Utf8.encode "null"))] := rfl
    rw [hcomponents]
    rw [Utf8.decodeLossy_of_ascii rfl, Utf8.decodeLossy_of_ascii rfl, Utf8.decodeLossy_of_ascii rfl,
      Utf8.decodeLossy_of_ascii rfl]
    rfl
  have hquery : Bag.ofQuery nullRequest.target.query =
      [("page", .string "1"), ("order", .string "null")] := congrArg Bag.ofPairs hpairs
  have hplanned : ∃ (gate : Gate Checker) (plan : Plan),
      Gate.prepare Gate.demanding .default = .ok gate ∧
      gate.plan? nullRequest.target.path nullRequest.method = some plan ∧
      plan.needsBody = false ∧
      (gate.calls plan (nullRequest.forGate [])).map Call.location = [.query, .header] ∧
      (Fields.get? "x-key" (plan.rules.fieldsAt .header)).map Rule.required = some true := by
    unfold Request.forGate
    rw [hquery]
    exact ⟨_, _, rfl, rfl, rfl, rfl, rfl⟩
  obtain ⟨gate, plan, hprepare, hplan, hneeds, hcalls, hrequired⟩ := hplanned
  have hread : BodyIsRead plan 0 nullRequest [] :=
    fun hbody => absurd (hneeds.symm.trans hbody) Bool.false_ne_true
  have hmisses := missesUnsentOnly hprepare hplan hread
  refine ⟨gate, plan, hprepare, hplan, hread, hmisses, ?_, ?_⟩
  · refine (hmisses.missing_iff .header "x-key").2 ⟨?_, Option.map_eq_some_iff.1 hrequired, ?_⟩
    · exact List.mem_map.1 (hcalls ▸ List.mem_cons_of_mem _ List.mem_cons_self)
    · rintro ⟨value, hvalue⟩
      exact absurd hvalue List.not_mem_nil
  · refine hmisses.query_value "order" "null" ?_
    rw [hpairs]
    exact List.mem_cons_of_mem _ List.mem_cons_self

end Http
end RequestGate
