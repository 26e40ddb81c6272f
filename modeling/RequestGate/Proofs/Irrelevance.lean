import RequestGate.Proofs.Conversion
import RequestGate.Proofs.Truncation

/-!
# Fields without rules

A gate looks up in the bags of a request the fields that have rules, and nothing else.  So it cannot
tell two requests apart that send the same there: whatever else their bags hold, and in whatever order,
they have the same result, with the same failures, and the same is counted.

Rules for form data and rules for the body look at the same bag, and rules for the path look at the
parameters that come with a request or else at the captures of the plan.

Main results:

- Theorem `Checker.validate_congr`: a checker depends on the fields with rules only.
- Theorem `Gate.validate_eq_of_agreesOn`: requests that agree on the fields with rules have the same
  result.
-/

namespace RequestGate

/-- Two bags have the same for every field with a rule: the same value, or both none. -/
def FieldRules.AgreesOn (rules : FieldRules) (first second : Bag) : Prop :=
  ∀ field ∈ rules.names, Fields.get? field first = Fields.get? field second

/-- Bags that agree before coercion agree after it. -/
theorem FieldRules.AgreesOn.coerce {rules : FieldRules} {first second : Bag}
    (h : rules.AgreesOn first second) :
    rules.AgreesOn (Coercion.bag first) (Coercion.bag second) := by
  intro field hfield
  rw [Checker.get?_bag, Checker.get?_bag, h field hfield]

namespace Checker

theorem fieldError?_congr (checker : Checker) {entry : String × Rule} {first second : Bag}
    (h : Fields.get? entry.1 first = Fields.get? entry.1 second) :
    checker.fieldError? first entry = checker.fieldError? second entry := by
  unfold fieldError?
  rw [h]

/-- A checker finds the same faults in bags that agree on the fields with rules. -/
theorem validate_congr (checker : Checker) {rules : FieldRules} {first second : Bag}
    (h : rules.AgreesOn first second) :
    checker.validate rules first = checker.validate rules second := by
  have herrors : rules.filterMap (checker.fieldError? first) =
      rules.filterMap (checker.fieldError? second) :=
    List.filterMap_congr fun entry hentry =>
      checker.fieldError?_congr (h entry.1 (List.mem_map_of_mem hentry))
  unfold validate
  rw [herrors]

end Checker

/-- Two requests send the same for every field that has a rule in a plan. -/
structure Plan.AgreesOn (plan : Plan) (first second : GateRequest) : Prop where
  query : plan.rules.query.AgreesOn first.query second.query
  header : plan.rules.header.AgreesOn first.headers second.headers
  path : plan.rules.path.AgreesOn (first.pathParams.getD plan.captureBag)
    (second.pathParams.getD plan.captureBag)
  formData : plan.rules.formData.AgreesOn first.body second.body
  body : plan.rules.body.AgreesOn first.body second.body

/-- Requests that send the same give bags that agree at every place. -/
theorem Plan.AgreesOn.bagAt {plan : Plan} {first second : GateRequest}
    (h : plan.AgreesOn first second) (location : Location) :
    (plan.rules.fieldsAt location).AgreesOn (plan.bagAt first location)
      (plan.bagAt second location) := by
  cases location with
  | query => exact h.query.coerce
  | header => exact h.header
  | path => exact h.path
  | formData => exact h.formData
  | body => exact h.body

namespace Gate

/-- Requests that agree on the fields with rules are checked alike. -/
theorem check_eq_of_agreesOn {gate : Gate Checker} {plan : Plan} {first second : GateRequest}
    (h : plan.AgreesOn first second) : gate.check plan first = gate.check plan second := by
  refine check_congr fun entry hentry => ?_
  obtain ⟨location, rules⟩ := entry
  obtain rfl : rules = plan.rules.fieldsAt location := (LocationRules.mem_nonempty.1 hentry).1
  exact gate.validator.validate_congr (h.bagAt location)

/-- Two requests with the same plan that agree on the fields with rules have the same result, with the
same failures, and the same is counted for both. -/
theorem validate_eq_of_agreesOn {gate : Gate Checker} {first second : GateRequest}
    (hplan : gate.plan? first.path first.method = gate.plan? second.path second.method)
    (hagrees : ∀ plan, gate.plan? first.path first.method = some plan →
      plan.AgreesOn first second) :
    gate.validate first = gate.validate second := by
  unfold validate
  rw [← hplan]
  cases hfound : gate.plan? first.path first.method with
  | none => rfl
  | some plan => simp only [check_eq_of_agreesOn (hagrees plan hfound)]

/-- A request with a page that is no number, a header field that is not asked for and a body. -/
def plainRequest : GateRequest where
  path := "/users"
  method := "GET"
  query := [("page", .string "one"), ("order", .string "name")]
  headers := [("accept", .string "*/*")]
  pathParams := none
  body := [("note", .null)]

/-- The same page and order among further fields, in another order. -/
def ladenRequest : GateRequest where
  path := "/users"
  method := "GET"
  query := [("debug", .string "true"), ("order", .string "name"), ("Page", .string "2"),
    ("page", .string "one")]
  headers := []
  pathParams := some [("id", .string "7")]
  body := []

/-- Both requests are rejected alike, for the page and for the header that they lack. -/
theorem validate_plainRequest_ladenRequest : ∃ (gate : Gate Checker) (rejection : Rejection),
    prepare demanding { ValidationSettings.default with mode := .aggregate } = .ok gate ∧
    gate.validate plainRequest = gate.validate ladenRequest ∧
    (gate.validate ladenRequest).1 = .error rejection ∧
    rejection.errors.map FieldError.field = ["page", "x-key"] := by
  refine ⟨_, _, rfl, validate_eq_of_agreesOn rfl fun plan hplan => ?_, rfl, by decide⟩
  cases hplan
  constructor <;> exact List.map_inj_left.1 rfl

end Gate
end RequestGate
