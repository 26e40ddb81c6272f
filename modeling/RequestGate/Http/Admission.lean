import RequestGate.Gate.Basic
import RequestGate.Http.Bag

/-!
# Admission

The gate in front of a service decides about every request.  Without a plan a request is admitted as
it is.  With one the body is read when the plan needs it, and the request is validated with its query,
its header fields and its body; only a request that satisfies all rules is admitted.

A body is not read when the request declares, or has, more bytes than the limit.
-/

namespace RequestGate
namespace Http

/-- What the gate decides about a request. -/
inductive Admission where
  /-- No rules apply. -/
  | passed
  /-- All rules are satisfied. -/
  | validated
  | unreadable (fault : BodyFault)
  | rejected (rejection : Rejection)

namespace Admission

/-- Whether the request goes on to the service. -/
def isAdmitted : Admission → Bool
  | passed | validated => true
  | unreadable _ | rejected _ => false

/-- The response to a request that does not go on. -/
def refusal? : Admission → Option Response
  | passed | validated => none
  | unreadable fault => some (.ofJsonText fault.status (Json.compact fault.toJson))
  | rejected rejection => some (.ofJsonText 422 (Json.compact rejection.toJson))

end Admission

/-- A number of 64 bits in decimal digits, possibly after a plus sign. -/
def lengthOfText? (text : String) : Option Nat :=
  match Numeral.splitSign text.toList with
  | (some true, _) => none
  | (_, digits) =>
    if digits ≠ [] && digits.all Char.isDigit && Numeral.value digits < Nat.pow 2 64 then
      some (Numeral.value digits)
    else none

namespace Request

/-- The length that a request declares for its body. -/
def declaredLength? (request : Request) : Option Nat :=
  (Headers.text? "content-length" request.headers).bind lengthOfText?

/-- The content type that a request declares for its body. -/
def contentType? (request : Request) : Option String :=
  Headers.text? "content-type" request.headers

/-- The bag of the body of a request. -/
def bodyBag (request : Request) (limit : Nat) : Except BodyFault Bag :=
  if request.declaredLength?.any (limit < ·) || limit < request.body.length then
    .error (.tooLarge limit)
  else Bag.ofBody request.contentType? request.body

/-- A request as the gate sees it, with the bag of its body. -/
def forGate (request : Request) (body : Bag) : GateRequest where
  path := request.target.path
  method := request.method
  query := Bag.ofQuery request.target.query
  headers := Bag.ofHeaders request.headers
  pathParams := none
  body := body

end Request

variable {σ : Type} [Validator σ]

/-- Decides about a request for which a plan exists, and what is counted. -/
def admissionByPlan (gate : Gate σ) (plan : Plan) (limit : Nat) (request : Request) :
    Admission × List Event :=
  match if plan.needsBody then request.bodyBag limit else .ok [] with
  | .error fault => (.unreadable fault, [])
  | .ok body =>
    let (result, events) := gate.check plan (request.forGate body)
    (match result with
      | .ok () => .validated
      | .error rejection => .rejected rejection, events ++ [.duration])

/-- Decides about a request, and what is counted. -/
def admission (gate : Gate σ) (limit : Nat) (request : Request) : Admission × List Event :=
  match gate.plan? request.target.path request.method with
  | none => (.passed, [.passed])
  | some plan => admissionByPlan gate plan limit request

end Http
end RequestGate
