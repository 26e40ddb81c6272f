import RequestGate.Proofs.Accounting
import RequestGate.Proofs.Admission

/-!
# What a server counts

A server counts the requests that reach its gate by the outcomes that validation counts, with one
exception: a request whose body is taken and cannot be read is answered before any rule is checked, and
nothing is counted for it.

Main results:

- Theorem `Http.decides_admission`: the four decisions about a request, with what is counted for each.
- Theorem `Http.countsDecisions_replies`: what a server counts for a run of requests.
- Theorem `Http.countsEachOnce_iff`: a server counts every request of a run once exactly when every body
  that is taken can be read.
-/

namespace RequestGate

namespace Http

variable {σ : Type} [Validator σ]

/-! ## Requests to a server -/

/-- A plan takes the body of a request, and that body cannot be read: it is too long, or it is not the
JSON object that it should be. -/
def IsUnreadable (gate : Gate σ) (limit : Nat) (request : Request) : Prop :=
  ∃ plan, gate.plan? request.target.path request.method = some plan ∧ plan.needsBody = true ∧
    (request.IsOverlong limit ∨ request.HasBadJson)

/-- No rules apply to a request. -/
def IsUnplanned (gate : Gate σ) (request : Request) : Prop :=
  gate.plan? request.target.path request.method = none

/-- A request goes on to the service after its rules were checked. -/
def IsServedByPlan (gate : Gate σ) (limit : Nat) (request : Request) : Prop :=
  ¬ IsUnplanned gate request ∧ Serves gate limit request

/-- The gate itself answers a request. -/
def IsAnswered (gate : Gate σ) (limit : Nat) (request : Request) : Prop :=
  ∃ response, Refuses gate limit request response

/-- A body that cannot be read is a decision of its own, for which nothing is counted. -/
theorem admission_of_isUnreadable {gate : Gate σ} {limit : Nat} {request : Request}
    (h : IsUnreadable gate limit request) :
    ∃ fault, admission gate limit request = (.unreadable fault, []) := by
  obtain ⟨plan, hplan, hneeds, hbad⟩ := h
  have hfault : ∃ fault, request.bodyBag limit = .error fault := by
    by_cases hlength : request.IsOverlong limit
    · exact ⟨_, Request.bodyBag_of_isOverlong hlength⟩
    · rw [Request.bodyBag_of_not_isOverlong hlength]
      rcases request.ofBody_cases with ⟨hgood, _⟩ | ⟨_, fault, _, hfault⟩
      · exact absurd (hbad.resolve_left hlength) hgood
      · exact ⟨fault, hfault⟩
  obtain ⟨fault, hfault⟩ := hfault
  exact ⟨fault, admission_of_unreadable hplan hneeds hfault⟩

omit [Validator σ] in
/-- A body that can be read is read, where a plan takes it. -/
theorem exists_bodyIsRead {gate : Gate σ} {limit : Nat} {request : Request} {plan : Plan}
    (hplan : gate.plan? request.target.path request.method = some plan)
    (h : ¬ IsUnreadable gate limit request) : ∃ body, BodyIsRead plan limit request body := by
  by_cases hneeds : plan.needsBody = true
  · have hlength : ¬ request.IsOverlong limit :=
      fun hoverlong => h ⟨plan, hplan, hneeds, Or.inl hoverlong⟩
    rcases request.ofBody_cases with ⟨_, body, hbody⟩ | ⟨hbad, _⟩
    · exact ⟨body, fun _ => ⟨hlength, hbody⟩⟩
    · exact absurd ⟨plan, hplan, hneeds, Or.inr hbad⟩ h
  · exact ⟨[], fun htaken => absurd htaken hneeds⟩

/-- How a server decides about a request, and what it counts for each decision. -/
inductive Decides (gate : Gate σ) (limit : Nat) (request : Request) : Admission → List Event → Prop
  | passed (hplan : IsUnplanned gate request) : Decides gate limit request .passed [.passed]
  | unreadable (hplan : ¬ IsUnplanned gate request) (hread : IsUnreadable gate limit request)
    (fault : BodyFault) : Decides gate limit request (.unreadable fault) []
  | validated (hplan : ¬ IsUnplanned gate request) (hread : ¬ IsUnreadable gate limit request)
    {route : String} {events : List Event} (hcounts : CountsOutcomes [.ok (.validated route)] events) :
    Decides gate limit request .validated events
  | rejected (hplan : ¬ IsUnplanned gate request) (hread : ¬ IsUnreadable gate limit request)
    {rejection : Rejection} {events : List Event} (hcounts : CountsOutcomes [.error rejection] events) :
    Decides gate limit request (.rejected rejection) events

theorem decides_admission (gate : Gate σ) (limit : Nat) (request : Request) :
    Decides gate limit request (admission gate limit request).1 (admission gate limit request).2 := by
  cases hplan : gate.plan? request.target.path request.method with
  | none =>
    rw [admission_of_plan?_eq_none hplan]
    exact .passed hplan
  | some plan =>
    have hplanned : ¬ IsUnplanned gate request := by
      rw [IsUnplanned, hplan]
      exact Option.some_ne_none plan
    by_cases hread : IsUnreadable gate limit request
    · obtain ⟨fault, hfault⟩ := admission_of_isUnreadable hread
      rw [hfault]
      exact .unreadable hplanned hread fault
    · obtain ⟨body, hbody⟩ := exists_bodyIsRead hplan hread
      have hcounts := gate.countsOutcomes_validate (request.forGate body)
      have hresult := @Gate.validate_of_plan? σ _ gate (request.forGate body) plan hplan
      rw [admission_eq_validate hplan hbody]
      cases hcheck : (gate.check plan (request.forGate body)).1 with
      | ok =>
        rw [hcheck] at hresult
        rw [hresult] at hcounts ⊢
        exact .validated hplanned hread hcounts
      | error rejection =>
        rw [hcheck] at hresult
        rw [hresult] at hcounts ⊢
        exact .rejected hplanned hread hcounts

/-- The gate answers a request exactly when it does not let it through. -/
theorem isAnswered_iff {gate : Gate σ} {limit : Nat} {request : Request} :
    IsAnswered gate limit request ↔ (admission gate limit request).1.isAdmitted = false := by
  have hrefusal : ∀ decision : Admission,
      decision.isAdmitted = false ↔ ∃ response, decision.refusal? = some response := by
    intro decision
    cases decision <;> simp [Admission.isAdmitted, Admission.refusal?]
  rw [hrefusal]
  constructor
  · rintro ⟨response, hrefuses⟩
    obtain ⟨refusal, hsome, _⟩ := refuses_iff.1 hrefuses
    exact ⟨refusal, hsome⟩
  · rintro ⟨response, hsome⟩
    exact ⟨response, refuses_of_refusal? hsome⟩

theorem isServedByPlan_iff {gate : Gate σ} {limit : Nat} {request : Request} :
    IsServedByPlan gate limit request ↔
      ¬ IsUnplanned gate request ∧ (admission gate limit request).1.isAdmitted = true := by
  rw [IsServedByPlan, serves_iff]

/-- Whether a body could not be read. -/
def Admission.isUnreadable : Admission → Bool
  | .unreadable _ => true
  | .passed | .validated | .rejected _ => false

theorem isUnreadable_iff {gate : Gate σ} {limit : Nat} {request : Request} :
    IsUnreadable gate limit request ↔ (admission gate limit request).1.isUnreadable = true := by
  have hdecides := decides_admission gate limit request
  generalize (admission gate limit request).1 = decision at hdecides ⊢
  generalize (admission gate limit request).2 = events at hdecides
  cases hdecides with
  | passed hplan =>
    refine iff_of_false ?_ Bool.false_ne_true
    rintro ⟨plan, hsome, _⟩
    exact Option.some_ne_none plan (hsome.symm.trans hplan)
  | unreadable _ hread _ => exact iff_of_true hread rfl
  | validated _ hread _ => exact iff_of_false hread Bool.false_ne_true
  | rejected _ hread _ => exact iff_of_false hread Bool.false_ne_true

omit [Validator σ] in
instance (gate : Gate σ) (request : Request) : Decidable (IsUnplanned gate request) :=
  inferInstanceAs (Decidable (_ = none))

instance (gate : Gate σ) (limit : Nat) (request : Request) :
    Decidable (IsUnreadable gate limit request) :=
  decidable_of_iff _ isUnreadable_iff.symm

instance (gate : Gate σ) (limit : Nat) (request : Request) :
    Decidable (IsServedByPlan gate limit request) :=
  decidable_of_iff _ isServedByPlan_iff.symm

instance (gate : Gate σ) (limit : Nat) (request : Request) :
    Decidable (IsAnswered gate limit request) :=
  decidable_of_iff _ isAnswered_iff.symm

/-! ## Runs of requests -/

/-- What is counted for requests: those without a plan pass, those that go on after a check are
validated, and those that the gate answers are rejected unless their body cannot be read. -/
structure CountsDecisions (gate : Gate σ) (limit : Nat) (requests : List Request)
    (events : List Event) : Prop where
  passed : events.count .passed = requests.countP (IsUnplanned gate ·)
  validated : events.count .validated = requests.countP (IsServedByPlan gate limit ·)
  rejected : events.count .rejected + requests.countP (IsUnreadable gate limit ·) =
    requests.countP (IsAnswered gate limit ·)
  total : events.count .passed + events.count .validated + events.count .rejected +
    requests.countP (IsUnreadable gate limit ·) = requests.length

theorem CountsDecisions.append {gate : Gate σ} {limit : Nat} {first second : List Request}
    {events more : List Event} (hfirst : CountsDecisions gate limit first events)
    (hsecond : CountsDecisions gate limit second more) :
    CountsDecisions gate limit (first ++ second) (events ++ more) := by
  have hrejected := hfirst.rejected
  have hrejected' := hsecond.rejected
  have htotal := hfirst.total
  have htotal' := hsecond.total
  constructor <;> simp only [List.count_append, List.countP_append, List.length_append]
  case passed => rw [hfirst.passed, hsecond.passed]
  case validated => rw [hfirst.validated, hsecond.validated]
  case rejected => omega
  case total => omega

/-- What is counted for one request. -/
theorem countsDecisions_admission (gate : Gate σ) (limit : Nat) (request : Request) :
    CountsDecisions gate limit [request] (admission gate limit request).2 := by
  have hdecides := decides_admission gate limit request
  have hserved : IsServedByPlan gate limit request ↔ _ := isServedByPlan_iff
  have hanswered : IsAnswered gate limit request ↔ _ := isAnswered_iff
  have hread : IsUnreadable gate limit request ↔ _ := isUnreadable_iff
  generalize (admission gate limit request).1 = decision at hdecides hserved hanswered hread
  generalize (admission gate limit request).2 = events at hdecides ⊢
  cases hdecides with
  | passed hplan =>
    simp only [Admission.isAdmitted, Admission.isUnreadable] at hserved hanswered hread
    constructor <;> simp [hplan, hserved, hanswered, hread]
  | unreadable hplan _ fault =>
    simp only [Admission.isAdmitted, Admission.isUnreadable] at hserved hanswered hread
    constructor <;> simp [hplan, hserved, hanswered, hread]
  | validated hplan _ hcounts | rejected hplan _ hcounts =>
    simp only [Admission.isAdmitted, Admission.isUnreadable] at hserved hanswered hread
    constructor <;> simp [List.countP_cons, hplan, hserved, hanswered, hread, hcounts.passed,
      hcounts.validated, hcounts.rejected, Result.isPassed, Result.isValidated, Result.isRejected]

/-- What a server counts for requests one after another. -/
theorem countsDecisions_replies (server : Server σ) (requests : List Request) :
    CountsDecisions server.gate server.limit requests (server.replies requests).2 := by
  induction requests with
  | nil => constructor <;> rfl
  | cons request rest ih =>
    exact (countsDecisions_admission server.gate server.limit request).append ih

/-- A server counts every request once: it passes when no rules apply, it is validated when it goes on
after its rules were checked, and it is rejected when the gate itself answers. -/
structure CountsEachOnce (server : Server σ) (requests : List Request) : Prop where
  total : (server.replies requests).2.count .passed + (server.replies requests).2.count .validated +
    (server.replies requests).2.count .rejected = requests.length
  passed : (server.replies requests).2.count .passed =
    requests.countP (IsUnplanned server.gate ·)
  validated : (server.replies requests).2.count .validated =
    requests.countP (IsServedByPlan server.gate server.limit ·)
  rejected : (server.replies requests).2.count .rejected =
    requests.countP (IsAnswered server.gate server.limit ·)

/-- A server counts every request once exactly when no request has a body that is taken and cannot be
read. -/
theorem countsEachOnce_iff (server : Server σ) (requests : List Request) :
    CountsEachOnce server requests ↔
      ∀ request ∈ requests, ¬ IsUnreadable server.gate server.limit request := by
  have hcounts := countsDecisions_replies server requests
  have hrejected := hcounts.rejected
  have htotal := hcounts.total
  have hnone : (∀ request ∈ requests, ¬ IsUnreadable server.gate server.limit request) ↔
      requests.countP (IsUnreadable server.gate server.limit ·) = 0 := by
    rw [List.countP_eq_zero]
    simp only [decide_eq_true_eq]
  rw [hnone]
  constructor
  · intro heach
    have hall := heach.total
    omega
  · intro hreadable
    rw [hreadable, Nat.add_zero] at hrejected htotal
    exact ⟨htotal, hcounts.passed, hcounts.validated, hrejected⟩

/-- An operation with a form. -/
def adopting : Description where
  swagger := none
  openapi := none
  paths :=
    [("/pets", ⟨fun
        | .post => some ⟨none, some [⟨some "name", some "formData", none, none, none, none, none⟩],
          none⟩
        | _ => none⟩)]

/-- A form that is too long is answered by the gate and counted with no outcome. -/
theorem uncounted : ∃ gate request, Gate.prepare adopting .default = .ok gate ∧
    Request.ofParts? "POST" "/pets" [] [0x6E, 0x3D] = some request ∧
    IsAnswered gate 1 request ∧ (Server.replies ⟨gate, 1, fun _ => none⟩ [request]).2 = [] ∧
    ¬ CountsEachOnce ⟨gate, 1, fun _ => none⟩ [request] := by
  refine ⟨_, _, rfl, rfl, isAnswered_iff.2 rfl, rfl, ?_⟩
  intro heach
  exact absurd heach.total (by decide)

end Http
end RequestGate
