import RequestGate.Compiled
import RequestGate.Validation.Coercion
import RequestGate.Validation.Failure

/-!
# The gate

A gate holds a compiled description, a validator and a mode.  For a request it plans which rules
apply: the path has to resolve to a route, and the operation needs rules.  A request without a plan
passes through.  For any other the validator is called once for every place that has rules, in the
order of places; in the fail-fast mode the first failing call is the last.

What is counted is part of every answer, as a list of events.
-/

namespace RequestGate

/-- How many failing places are reported. -/
inductive Mode where
  /-- The first only. -/
  | failFast
  /-- All of them together. -/
  | aggregate
  deriving DecidableEq

/-- What checks bags against rules.  Vetting rules may change the validator; it gives the reason when
it refuses them. -/
class Validator (σ : Type) where
  prepare : σ → FieldRules → σ × Option String
  validate : σ → FieldRules → Bag → Except InvalidParams Unit

/-- A gate that requests can be checked with. -/
structure Gate (σ : Type) where
  compiled : Compiled
  validator : σ
  mode : Mode

/-- A request as the gate sees it. -/
structure GateRequest where
  path : String
  method : String
  query : Bag
  headers : Bag
  /-- Path parameters from elsewhere; without them the gate captures its own. -/
  pathParams : Option Bag
  body : Bag

/-- The rules that apply to a request. -/
structure Plan where
  route : String
  verb : Verb
  rules : LocationRules
  captures : Route.Captures

/-- The result for a request that is not rejected. -/
inductive Outcome where
  /-- No rules apply. -/
  | passedThrough
  /-- All rules of a route are satisfied. -/
  | validated (route : String)
  deriving DecidableEq

/-- What is counted. -/
inductive Event where
  | passed
  | validated
  | rejected
  /-- A place fails. -/
  | rejection (location : Location)
  /-- The time for checking a request is recorded. -/
  | duration
  deriving DecidableEq

/-- Rules that a validator refuses at the start. -/
structure RuleRefusal where
  route : String
  verb : Verb
  location : Location
  reason : String

/-- A refusal in words. -/
def RuleRefusal.message (refusal : RuleRefusal) : String :=
  refusal.verb.upperName ++ " " ++ refusal.route ++ " (" ++ refusal.location.name ++ "): " ++
    refusal.reason

/-- A call of the validator: the place it is about, what it is given and what it answers. -/
structure Call where
  location : Location
  rules : FieldRules
  bag : Bag
  verdict : Except InvalidParams Unit

/-- Whether the validator rejects a bag. -/
def Call.fails (call : Call) : Bool :=
  match call.verdict with
  | .ok () => false
  | .error _ => true

/-- The failures that a call reports, at its place. -/
def Call.errors (call : Call) : List FieldError :=
  match call.verdict with
  | .ok () => []
  | .error invalid => invalid.locate call.location

namespace Plan

/-- Whether the plan takes the body of the request. -/
def needsBody (plan : Plan) : Bool :=
  plan.rules.needsBody

/-- The captured path parameters as a bag. -/
def captureBag (plan : Plan) : Bag :=
  plan.captures.map fun (name, value) => (name, .string value)

/-- The bag of one place of a request. -/
def bagAt (plan : Plan) (request : GateRequest) : Location → Bag
  | .query => Coercion.bag request.query
  | .header => request.headers
  | .path => request.pathParams.getD plan.captureBag
  | .formData => request.body
  | .body => request.body

end Plan

namespace Gate

variable {σ : Type} [Validator σ]

/-- Vets rules of operations one after another. -/
def prepareAll (validator : σ) :
    List (String × Verb × Location × FieldRules) → Except RuleRefusal σ
  | [] => .ok validator
  | (route, verb, location, rules) :: rest =>
    match Validator.prepare validator rules with
    | (validator, none) => prepareAll validator rest
    | (_, some reason) => .error ⟨route, verb, location, reason⟩

/-- The rules of every operation and place that has some, in the order of the table. -/
def vetted (table : RuleTable) : List (String × Verb × Location × FieldRules) :=
  table.entries.flatMap fun entry =>
    (entry.rules.map LocationRules.nonempty).getD [] |>.map fun (location, rules) =>
      (entry.route, entry.verb, location, rules)

/-- The gate of a compiled description, after the validator has vetted every rule. -/
def start (compiled : Compiled) (validator : σ) (mode : Mode) : Except RuleRefusal (Gate σ) := do
  let validator ← prepareAll validator (vetted compiled.rules)
  return ⟨compiled, validator, mode⟩

omit [Validator σ] in
/-- The rules that apply to requests for a path with a method. -/
def plan? (gate : Gate σ) (path method : String) : Option Plan := do
  let verb ← Verb.ofName? method
  let resolution ← gate.compiled.routes.resolve? path
  let rules ← gate.compiled.rules.lookup? resolution.template verb
  return ⟨resolution.template, verb, rules, resolution.captures⟩

/-- The call for one place. -/
def call (gate : Gate σ) (plan : Plan) (request : GateRequest)
    (entry : Location × FieldRules) : Call :=
  let bag := plan.bagAt request entry.1
  ⟨entry.1, entry.2, bag, Validator.validate gate.validator entry.2 bag⟩

/-- The calls made for places in order: a failing call is the last in the fail-fast mode. -/
def callsFor (gate : Gate σ) (plan : Plan) (request : GateRequest) :
    List (Location × FieldRules) → List Call
  | [] => []
  | entry :: rest =>
    let call := gate.call plan request entry
    call :: (if call.fails && gate.mode = .failFast then [] else callsFor gate plan request rest)

/-- The calls that checking a request makes. -/
def calls (gate : Gate σ) (plan : Plan) (request : GateRequest) : List Call :=
  gate.callsFor plan request plan.rules.nonempty

/-- Checks a request by its plan, and what is counted. -/
def check (gate : Gate σ) (plan : Plan) (request : GateRequest) :
    Except Rejection Unit × List Event :=
  let failing := (gate.calls plan request).filter Call.fails
  let rejections := failing.map fun call => Event.rejection call.location
  if failing.isEmpty then (.ok (), [.validated])
  else (.error ⟨failing.flatMap Call.errors⟩, rejections ++ [.rejected])

/-- Validates a request, and what is counted. -/
def validate (gate : Gate σ) (request : GateRequest) : Except Rejection Outcome × List Event :=
  match gate.plan? request.path request.method with
  | none => (.ok .passedThrough, [.passed])
  | some plan =>
    let (result, events) := gate.check plan request
    (result.map fun _ => .validated plan.route, events ++ [.duration])

end Gate
end RequestGate
