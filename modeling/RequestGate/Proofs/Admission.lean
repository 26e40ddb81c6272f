import RequestGate.Http.Server
import RequestGate.Proofs.Planning

/-!
# Admission and validation are the same gate

A server decides about a request with `Http.admission`, which plans, reads the body, checks and answers
step by step, while `Gate.validate` does all of it for a request that has its bags already.  A request
whose body can be read is served exactly when validation accepts it.  A request whose body cannot be
read is answered before any rule is checked, and only where the plan takes the body.

Main results:

- Theorem `Http.admission_eq_validate`: with a body that is read, a decision is that of validation.
- Theorem `Http.serves_iff`: a server passes a request on unchanged exactly when it is admitted.
- Theorem `Http.agreesWithValidation`: what a server does with any request, in terms of validation.
-/

namespace RequestGate

namespace Http

variable {σ : Type} [Validator σ]

/-! ## Bodies -/

/-- A request declares or has a body longer than a limit. -/
def Request.IsOverlong (request : Request) (limit : Nat) : Prop :=
  (∃ length, request.declaredLength? = some length ∧ limit < length) ∨ limit < request.body.length

/-- A request has a body that should be JSON and is no JSON object. -/
def Request.HasBadJson (request : Request) : Prop :=
  request.body ≠ [] ∧ Bag.isJson ((request.contentType?.map Bag.mediaType).getD "") = true ∧
    ∀ members, Json.readBytes? request.body ≠ some (.object members)

namespace Request

/-- A body past the limit is not read. -/
theorem bodyBag_of_isOverlong {request : Request} {limit : Nat} (h : request.IsOverlong limit) :
    request.bodyBag limit = .error (.tooLarge limit) := by
  unfold bodyBag
  rw [if_pos]
  rw [Bool.or_eq_true, Option.any_eq_true_iff_get]
  rcases h with ⟨length, hlength, hlimit⟩ | hlimit
  · left
    simp [hlength, hlimit]
  · right
    simp [hlimit]

/-- A body within the limit gives the bag of its content. -/
theorem bodyBag_of_not_isOverlong {request : Request} {limit : Nat}
    (h : ¬ request.IsOverlong limit) :
    request.bodyBag limit = Bag.ofBody request.contentType? request.body := by
  unfold bodyBag
  rw [if_neg]
  rw [Bool.or_eq_true]
  rintro (hdeclared | hlimit)
  · obtain ⟨length, hlength, hlimit⟩ := Option.any_eq_true _ _ |>.1 hdeclared
    exact h (Or.inl ⟨length, hlength, by simpa using hlimit⟩)
  · exact h (Or.inr (by simpa using hlimit))

end Request

/-- JSON bytes give the members of an object, or a fault with status 400. -/
theorem Bag.ofJson_cases (bytes : List UInt8) :
    (∃ members, Json.readBytes? bytes = some (.object members) ∧ ofJson bytes = .ok members) ∨
      (∀ members, Json.readBytes? bytes ≠ some (.object members)) ∧
        ∃ fault, fault.status = 400 ∧ ofJson bytes = .error fault := by
  unfold ofJson
  split
  · rename_i hread
    exact Or.inr ⟨by simp [hread], .malformedJson, rfl, rfl⟩
  · rename_i members hread
    exact Or.inl ⟨members, hread, rfl⟩
  · rename_i value hvalue hread
    refine Or.inr ⟨fun members hmembers => ?_, .notObject, rfl, rfl⟩
    rw [hread] at hmembers
    exact hvalue members (Option.some.inj hmembers)

/-- A body cannot be read exactly when it should be a JSON object and is none. -/
theorem Request.ofBody_cases (request : Request) :
    (¬ request.HasBadJson ∧ ∃ body, Bag.ofBody request.contentType? request.body = .ok body) ∨
      request.HasBadJson ∧ ∃ fault, fault.status = 400 ∧
        Bag.ofBody request.contentType? request.body = .error fault := by
  unfold Bag.ofBody HasBadJson
  by_cases hempty : request.body = []
  · exact Or.inl ⟨fun h => h.1 hempty, [], if_pos hempty⟩
  · by_cases hjson : Bag.isJson ((request.contentType?.map Bag.mediaType).getD "") = true
    · rw [if_neg hempty, if_pos hjson]
      rcases Bag.ofJson_cases request.body with ⟨members, hread, hbag⟩ | ⟨hread, hbag⟩
      · exact Or.inl ⟨fun h => h.2.2 members hread, members, hbag⟩
      · exact Or.inr ⟨⟨hempty, hjson, hread⟩, hbag⟩
    · rw [if_neg hempty, if_neg hjson]
      refine Or.inl ⟨fun h => hjson h.2.1, ?_⟩
      split
      · exact ⟨_, rfl⟩
      · exact ⟨_, rfl⟩

/-! ## Decisions -/

/-- The decision that a result of validation stands for. -/
def Admission.ofValidation : Except Rejection Outcome → Admission
  | .ok .passedThrough => .passed
  | .ok (.validated _) => .validated
  | .error rejection => .rejected rejection

theorem Admission.isAdmitted_ofValidation {result : Except Rejection Outcome} :
    (ofValidation result).isAdmitted = true ↔ ∃ outcome, result = .ok outcome := by
  rcases result with rejection | (_ | route) <;> simp [ofValidation, isAdmitted]

/-- The body that validation is given is the body that was read, where a plan takes it. -/
def BodyIsRead (plan : Plan) (limit : Nat) (request : Request) (body : Bag) : Prop :=
  plan.needsBody = true →
    ¬ request.IsOverlong limit ∧ Bag.ofBody request.contentType? request.body = .ok body

theorem admission_of_plan?_eq_none {gate : Gate σ} {limit : Nat} {request : Request}
    (h : gate.plan? request.target.path request.method = none) :
    admission gate limit request = (.passed, [.passed]) := by
  unfold admission
  rw [h]

/-- A body that a plan takes and that cannot be read is a decision of its own. -/
theorem admission_of_unreadable {gate : Gate σ} {plan : Plan} {limit : Nat} {request : Request}
    {fault : BodyFault} (hplan : gate.plan? request.target.path request.method = some plan)
    (hbody : plan.needsBody = true) (hfault : request.bodyBag limit = .error fault) :
    admission gate limit request = (.unreadable fault, []) := by
  unfold admission
  rw [hplan]
  show admissionByPlan gate plan limit request = _
  unfold admissionByPlan
  rw [if_pos hbody, hfault]

/-- The decision by a plan, with the bag of the body that is read for it, is that of a check. -/
theorem admissionByPlan_eq_check {gate : Gate σ} {plan : Plan} {limit : Nat} {request : Request}
    {used : Bag} (hused : (if plan.needsBody then request.bodyBag limit else .ok []) = .ok used) :
    admissionByPlan gate plan limit request =
      (.ofValidation ((gate.check plan (request.forGate used)).1.map fun _ =>
        .validated plan.route), (gate.check plan (request.forGate used)).2 ++ [.duration]) := by
  unfold admissionByPlan
  rw [hused]
  simp only
  cases (gate.check plan (request.forGate used)).1 <;> rfl

/-- With a body that is read, and with any body where the plan takes none, the decision and what is
counted are those of validation. -/
theorem admission_eq_validate {gate : Gate σ} {plan : Plan} {limit : Nat} {request : Request}
    {body : Bag} (hplan : gate.plan? request.target.path request.method = some plan)
    (hread : BodyIsRead plan limit request body) :
    admission gate limit request =
      (.ofValidation (gate.validate (request.forGate body)).1,
        (gate.validate (request.forGate body)).2) := by
  -- Both sides check the same plan; what they check it with agrees wherever there are rules.
  have hcheck : ∃ used, (if plan.needsBody then request.bodyBag limit else .ok []) = .ok used ∧
      gate.check plan (request.forGate used) = gate.check plan (request.forGate body) := by
    cases hneeds : plan.needsBody with
    | true =>
      obtain ⟨hlength, hbag⟩ := hread hneeds
      refine ⟨body, ?_, rfl⟩
      rw [if_pos rfl, Request.bodyBag_of_not_isOverlong hlength, hbag]
    | false =>
      refine ⟨[], if_neg Bool.false_ne_true, ?_⟩
      exact Gate.check_body_irrelevant hneeds (request.forGate body) []
  obtain ⟨used, hused, hsame⟩ := hcheck
  have hadmission : admission gate limit request = admissionByPlan gate plan limit request := by
    unfold admission
    rw [hplan]
  have hplan' : gate.plan? (request.forGate body).path (request.forGate body).method =
      some plan := hplan
  unfold Gate.validate
  rw [hplan', hadmission, admissionByPlan_eq_check hused, hsame]

/-- An admitted request with a plan has a body that could be read and passes the check. -/
theorem check_of_isAdmitted {gate : Gate σ} {plan : Plan} {limit : Nat} {request : Request}
    (hplan : gate.plan? request.target.path request.method = some plan)
    (h : (admission gate limit request).1.isAdmitted = true) :
    ∃ body, BodyIsRead plan limit request body ∧
      (gate.check plan (request.forGate body)).1 = .ok () := by
  have hread : ∃ body, BodyIsRead plan limit request body := by
    cases hneeds : plan.needsBody with
    | false => exact ⟨[], fun hbody => absurd (hneeds.symm.trans hbody) Bool.false_ne_true⟩
    | true =>
      cases hbag : request.bodyBag limit with
      | error fault =>
        rw [admission_of_unreadable hplan hneeds hbag] at h
        cases h
      | ok body =>
        have hlength : ¬ request.IsOverlong limit := by
          intro hoverlong
          rw [Request.bodyBag_of_isOverlong hoverlong] at hbag
          cases hbag
        rw [Request.bodyBag_of_not_isOverlong hlength] at hbag
        exact ⟨body, fun _ => ⟨hlength, hbag⟩⟩
  obtain ⟨body, hbody⟩ := hread
  refine ⟨body, hbody, ?_⟩
  rw [admission_eq_validate hplan hbody, Admission.isAdmitted_ofValidation] at h
  obtain ⟨outcome, houtcome⟩ := h
  have hplan' : gate.plan? (request.forGate body).path (request.forGate body).method =
      some plan := hplan
  unfold Gate.validate at houtcome
  rw [hplan'] at houtcome
  cases hcheck : (gate.check plan (request.forGate body)).1 with
  | ok => rfl
  | error rejection => simp [hcheck, Except.map] at houtcome

/-! ## Servers -/

/-- A reply as it is sent for a request. -/
def Reply.sentFor (reply : Reply) (request : Request) : Reply :=
  { reply with response := reply.response.sentFor request.method }

/-- A gate passes a request on: whatever the service behind it is, it is given this very request and
the server's reply is its reply. -/
def Serves (gate : Gate σ) (limit : Nat) (request : Request) : Prop :=
  ∀ service, (Server.reply ⟨gate, limit, service⟩ request).1 =
    (Server.serviceReply service request).sentFor request

/-- A gate answers a request itself, whatever the service behind it is. -/
def Refuses (gate : Gate σ) (limit : Nat) (request : Request) (response : Response) : Prop :=
  ∀ service, (Server.reply ⟨gate, limit, service⟩ request).1 =
    Reply.sentFor ⟨response, false⟩ request

theorem reply_eq (gate : Gate σ) (limit : Nat) (service : Service) (request : Request) :
    (Server.reply ⟨gate, limit, service⟩ request).1 =
      match (admission gate limit request).1.refusal? with
      | some response => Reply.sentFor ⟨response, false⟩ request
      | none => (Server.serviceReply service request).sentFor request := by
  unfold Server.reply
  simp only
  cases (admission gate limit request).1.refusal? <;> rfl

/-- A request is refused with the response that its decision has. -/
theorem refuses_of_refusal? {gate : Gate σ} {limit : Nat} {request : Request} {response : Response}
    (h : (admission gate limit request).1.refusal? = some response) :
    Refuses gate limit request response := by
  intro service
  rw [reply_eq, h]

/-- A request is passed on exactly when it is admitted. -/
theorem serves_iff {gate : Gate σ} {limit : Nat} {request : Request} :
    Serves gate limit request ↔ (admission gate limit request).1.isAdmitted = true := by
  have hrefusal : ∀ decision : Admission,
      decision.isAdmitted = true ↔ decision.refusal? = none := by
    intro decision
    cases decision <;> simp [Admission.isAdmitted, Admission.refusal?]
  rw [hrefusal]
  constructor
  · intro hserves
    cases h : (admission gate limit request).1.refusal? with
    | none => rfl
    | some response =>
      -- A service that answers is not the one that gave the reply to a refused request.
      have hanswer := (hserves fun _ => some (.empty 200)).symm.trans
        (refuses_of_refusal? h fun _ => some (.empty 200))
      exact absurd (congrArg Reply.fromService hanswer) (by simp [Server.serviceReply, Reply.sentFor])
  · intro h service
    rw [reply_eq, h]

/-- A response is the answer of a refusal exactly when the decision has a response that is sent in
the same way. -/
theorem refuses_iff {gate : Gate σ} {limit : Nat} {request : Request} {response : Response} :
    Refuses gate limit request response ↔ ∃ refusal,
      (admission gate limit request).1.refusal? = some refusal ∧
        refusal.sentFor request.method = response.sentFor request.method := by
  constructor
  · intro h
    have hreply := h fun _ => some (.empty 200)
    rw [reply_eq] at hreply
    cases hrefusal : (admission gate limit request).1.refusal? with
    | none =>
      rw [hrefusal] at hreply
      exact absurd (congrArg Reply.fromService hreply) (by simp [Server.serviceReply, Reply.sentFor])
    | some refusal =>
      rw [hrefusal] at hreply
      exact ⟨refusal, rfl, congrArg Reply.response hreply⟩
  · rintro ⟨refusal, hrefusal, hsent⟩ service
    rw [reply_eq, hrefusal]
    show Reply.mk _ _ = Reply.mk _ _
    rw [hsent]

theorem Response.status_sentFor (method : String) (response : Response) :
    (response.sentFor method).status = response.status := by
  unfold Response.sentFor
  split <;> rfl

/-- A request is answered with status 422 exactly when it is rejected. -/
theorem refuses_422_iff {gate : Gate σ} {limit : Nat} {request : Request} :
    (∃ response, response.status = 422 ∧ Refuses gate limit request response) ↔
      ∃ rejection, (admission gate limit request).1 = .rejected rejection := by
  constructor
  · rintro ⟨response, hstatus, hrefuses⟩
    obtain ⟨refusal, hrefusal, hsent⟩ := refuses_iff.1 hrefuses
    have hsame := congrArg Response.status hsent
    rw [Response.status_sentFor, Response.status_sentFor, hstatus] at hsame
    cases hdecision : (admission gate limit request).1 with
    | passed | validated =>
      rw [hdecision] at hrefusal
      cases hrefusal
    | rejected rejection => exact ⟨rejection, rfl⟩
    | unreadable fault =>
      rw [hdecision] at hrefusal
      cases hrefusal
      cases fault <;> cases hsame
  · rintro ⟨rejection, hrejection⟩
    exact ⟨.ofJsonText 422 (Json.compact rejection.toJson), rfl,
      refuses_of_refusal? (by rw [hrejection]; rfl)⟩

/-- What a server does with a request, in terms of the gate's own validation.  The cases stand in the
order of their precedence. -/
structure AgreesWithValidation (gate : Gate σ) (limit : Nat) (request : Request) : Prop where
  serves_without_plan : gate.plan? request.target.path request.method = none →
    Serves gate limit request
  refuses_overlong : ∀ plan, gate.plan? request.target.path request.method = some plan →
    plan.needsBody = true → request.IsOverlong limit →
    Refuses gate limit request (.ofJsonText 413 (Json.compact (BodyFault.tooLarge limit).toJson))
  refuses_bad_json : ∀ plan, gate.plan? request.target.path request.method = some plan →
    plan.needsBody = true → ¬ request.IsOverlong limit → request.HasBadJson →
    ∃ fault : BodyFault,
      Refuses gate limit request (.ofJsonText 400 (Json.compact fault.toJson))
  /-- In all other cases there is a body to validate with. -/
  reads_body : ¬ request.HasBadJson →
    ∃ body, Bag.ofBody request.contentType? request.body = .ok body
  serves_iff_valid : ∀ plan body, gate.plan? request.target.path request.method = some plan →
    BodyIsRead plan limit request body →
    (Serves gate limit request ↔
      ∃ outcome, (gate.validate (request.forGate body)).1 = .ok outcome)
  refuses_422_iff_invalid : ∀ plan body,
    gate.plan? request.target.path request.method = some plan →
    BodyIsRead plan limit request body →
    ((∃ response, response.status = 422 ∧ Refuses gate limit request response) ↔
      ∃ rejection, (gate.validate (request.forGate body)).1 = .error rejection)
  refuses_invalid : ∀ plan body rejection,
    gate.plan? request.target.path request.method = some plan →
    BodyIsRead plan limit request body →
    (gate.validate (request.forGate body)).1 = .error rejection →
    Refuses gate limit request (.ofJsonText 422 (Json.compact rejection.toJson))

/-- Every server agrees with its gate's validation on every request. -/
theorem agreesWithValidation (gate : Gate σ) (limit : Nat) (request : Request) :
    AgreesWithValidation gate limit request := by
  constructor
  case serves_without_plan =>
    intro hplan
    rw [serves_iff, admission_of_plan?_eq_none hplan]
    rfl
  case refuses_overlong =>
    intro plan hplan hbody hlength
    apply refuses_of_refusal?
    rw [admission_of_unreadable hplan hbody (Request.bodyBag_of_isOverlong hlength)]
    rfl
  case refuses_bad_json =>
    intro plan hplan hbody hlength hbad
    rcases request.ofBody_cases with ⟨hgood, _⟩ | ⟨_, fault, hstatus, hfault⟩
    · exact absurd hbad hgood
    · rw [← Request.bodyBag_of_not_isOverlong hlength] at hfault
      refine ⟨fault, refuses_of_refusal? ?_⟩
      rw [admission_of_unreadable hplan hbody hfault, ← hstatus]
      rfl
  case reads_body =>
    intro hgood
    rcases request.ofBody_cases with ⟨_, hbody⟩ | ⟨hbad, _⟩
    · exact hbody
    · exact absurd hbad hgood
  case serves_iff_valid =>
    intro plan body hplan hread
    rw [serves_iff, admission_eq_validate hplan hread, Admission.isAdmitted_ofValidation]
  case refuses_422_iff_invalid =>
    intro plan body hplan hread
    rw [refuses_422_iff, admission_eq_validate hplan hread]
    refine exists_congr fun rejection => ?_
    rcases (gate.validate (request.forGate body)).1 with other | (_ | route) <;>
      simp [Admission.ofValidation]
  case refuses_invalid =>
    intro plan body rejection hplan hread hinvalid
    apply refuses_of_refusal?
    rw [admission_eq_validate hplan hread, hinvalid]
    rfl

end Http
end RequestGate
