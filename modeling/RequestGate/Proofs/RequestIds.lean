import RequestGate.Proofs.HeaderCase
import RequestGate.Proofs.Irrelevance
import RequestGate.Proofs.MissingFields
import RequestGate.Proofs.ServerCounts

/-!
# Identifiers of requests

A request that arrives without an identifier gets one before the gate sees it, in a header field after
all others.  So a rule for that field never misses it.  Nothing else of the request changes, and where
no rule is for that field the decision is that about the request as it was sent.

Main results:

- Theorem `Http.id?_serve`: what is sent back carries the identifier of the request, or the one that is
  made for it.
- Theorem `Http.not_isMissing_withId`: no request is rejected for want of an identifier.
- Theorem `Http.admission_withId`: without a rule for it, an identifier changes no decision.
- Theorem `Http.countsDecisions_serveAll`: what a server counts for a run of requests that arrive.
- Theorem `Http.events_serveAll_of_ignoresIds`: without rules for identifiers, that is what it would
  count for the requests as they were sent.
-/

namespace RequestGate
namespace Http

/-! ## Requests with identifiers -/

namespace Headers

theorem values_append (name : String) (first second : Headers) :
    values name (first ++ second) = values name first ++ values name second := by
  unfold values
  rw [List.filter_append, List.map_append]

/-- A header field of another name adds no value. -/
theorem values_append_field_of_ne {name other : String} (h : name ≠ other) (headers : Headers)
    (value : List UInt8) : values name (headers ++ [(other, value)]) = values name headers := by
  have hnone : values name [(other, value)] = [] := by
    unfold values
    rw [List.filter_cons_of_neg (by simpa using h.symm), List.filter_nil, List.map_nil]
  rw [values_append, hnone, List.append_nil]

end Headers

namespace Request

/-- A request keeps the identifier that it carries. -/
theorem withId_of_isSome {request : Request} (h : request.id?.isSome = true) (id : String) :
    request.withId id = request :=
  if_pos h

/-- A request without an identifier gets a header field for it. -/
theorem withId_of_eq_none {request : Request} (h : request.id? = none) (id : String) :
    request.withId id = { request with
      headers := request.headers ++ [(Headers.requestIdName, Utf8.encode id)] } :=
  if_neg (by rw [h]; exact Bool.false_ne_true)

theorem id?_withId (id : String) (request : Request) :
    (request.withId id).id? = some (request.id?.getD id) := by
  cases h : request.id? with
  | some own =>
    rw [withId_of_isSome (by rw [h]; rfl), h]
    rfl
  | none =>
    have hvalues : Headers.values Headers.requestIdName request.headers = [] := by
      unfold id? Headers.first? at h
      rw [Option.map_eq_none_iff, List.head?_eq_none_iff] at h
      exact h
    rw [withId_of_eq_none h]
    unfold id? Headers.first?
    rw [Headers.values_append, hvalues]
    show some (Utf8.decodeLossy (Utf8.encode id)) = some id
    rw [Utf8.decodeLossy_encode]

/-- Only the first identifier is taken. -/
theorem withId_withId (id other : String) (request : Request) :
    (request.withId id).withId other = request.withId id :=
  withId_of_isSome (by rw [id?_withId]; rfl) other

/-- The other header fields stay as they are. -/
theorem values_withId_of_ne {name : String} (h : name ≠ Headers.requestIdName) (id : String)
    (request : Request) :
    Headers.values name (request.withId id).headers = Headers.values name request.headers := by
  unfold withId
  split
  · rfl
  · exact Headers.values_append_field_of_ne h _ _

theorem target_withId (id : String) (request : Request) :
    (request.withId id).target = request.target := by
  unfold withId
  split <;> rfl

theorem method_withId (id : String) (request : Request) :
    (request.withId id).method = request.method := by
  unfold withId
  split <;> rfl

theorem body_withId (id : String) (request : Request) :
    (request.withId id).body = request.body := by
  unfold withId
  split <;> rfl

theorem text?_withId_of_ne {name : String} (h : name ≠ Headers.requestIdName) (id : String)
    (request : Request) :
    Headers.text? name (request.withId id).headers = Headers.text? name request.headers := by
  unfold Headers.text? Headers.first?
  rw [values_withId_of_ne h]

/-- The body is read as before: it depends on other header fields. -/
theorem bodyBag_withId (id : String) (request : Request) (limit : Nat) :
    (request.withId id).bodyBag limit = request.bodyBag limit := by
  have hlength : (request.withId id).declaredLength? = request.declaredLength? := by
    unfold declaredLength?
    rw [text?_withId_of_ne (by decide)]
  have htype : (request.withId id).contentType? = request.contentType? := by
    unfold contentType?
    rw [text?_withId_of_ne (by decide)]
  unfold bodyBag
  rw [hlength, htype, body_withId]

/-- A request has a header field with its identifier. -/
theorem exists_mem_headers_withId (id : String) (request : Request) :
    ∃ value, (Headers.requestIdName, value) ∈ (request.withId id).headers := by
  obtain ⟨value, hvalue, _⟩ := Option.map_eq_some_iff.1 (id?_withId id request)
  have hmem : value ∈ Headers.values Headers.requestIdName (request.withId id).headers :=
    List.mem_of_head? hvalue
  obtain ⟨field, hfield, rfl⟩ := List.mem_map.1 hmem
  obtain ⟨hfield, hname⟩ := List.mem_filter.1 hfield
  rw [decide_eq_true_eq] at hname
  exact ⟨field.2, hname ▸ hfield⟩

end Request

/-! ## Decisions -/

/-- A plan has no rule for the header field of identifiers. -/
def IgnoresIds (plan : Plan) : Prop :=
  Headers.requestIdName ∉ plan.rules.header.names

/-- Without a rule for it, an identifier is sent for no field with a rule. -/
theorem IgnoresIds.agreesOn {plan : Plan} (h : IgnoresIds plan) (id : String) (request : Request)
    (body : RequestGate.Bag) :
    plan.AgreesOn ((request.withId id).forGate body) (request.forGate body) where
  query := by
    show plan.rules.query.AgreesOn (Bag.ofQuery (request.withId id).target.query) _
    rw [Request.target_withId]
    exact fun _ _ => rfl
  header := by
    intro field hfield
    show Fields.get? field (Bag.ofHeaders (request.withId id).headers) =
      Fields.get? field (Bag.ofHeaders request.headers)
    have hne : field ≠ Headers.requestIdName := fun heq => h (heq ▸ hfield)
    rw [Bag.get?_ofHeaders, Bag.get?_ofHeaders, Request.values_withId_of_ne hne]
  path _ _ := rfl
  formData _ _ := rfl
  body _ _ := rfl

/-- Without a rule for it, an identifier changes no decision and nothing that is counted. -/
theorem admission_withId {gate : Gate Checker} (limit : Nat) (id : String) {request : Request}
    (h : ∀ plan, gate.plan? request.target.path request.method = some plan → IgnoresIds plan) :
    admission gate limit (request.withId id) = admission gate limit request := by
  unfold admission
  rw [Request.target_withId, Request.method_withId]
  cases hplan : gate.plan? request.target.path request.method with
  | none => rfl
  | some plan =>
    have hcheck : ∀ body, gate.check plan ((request.withId id).forGate body) =
        gate.check plan (request.forGate body) :=
      fun body => Gate.check_eq_of_agreesOn ((h plan hplan).agreesOn id request body)
    show admissionByPlan gate plan limit _ = admissionByPlan gate plan limit _
    unfold admissionByPlan
    simp only [Request.bodyBag_withId, hcheck]

/-- No request is rejected for want of an identifier. -/
theorem not_isMissing_withId {description : Description} {settings : ValidationSettings}
    {gate : Gate Checker} (hprepare : Gate.prepare description settings = .ok gate) (limit : Nat)
    (id : String) (request : Request) :
    ¬ IsMissing gate limit (request.withId id) .header Headers.requestIdName := by
  rintro ⟨rejection, hrejected, hreports⟩
  -- A request that is rejected has a plan, and its body is read where the plan takes it.
  cases hplan : gate.plan? (request.withId id).target.path (request.withId id).method with
  | none =>
    rw [admission_of_plan?_eq_none hplan] at hrejected
    cases hrejected
  | some plan =>
    have hreadable : ¬ IsUnreadable gate limit (request.withId id) := by
      intro hunreadable
      obtain ⟨fault, hfault⟩ := admission_of_isUnreadable hunreadable
      rw [hfault] at hrejected
      cases hrejected
    obtain ⟨body, hread⟩ := exists_bodyIsRead hplan hreadable
    have hdistinct : (plan.rules.fieldsAt .header).Distinct :=
      Description.distinct_fieldsAt_compile (Gate.compile_of_prepare hprepare)
        (RuleTable.lookup?_eq_some_iff.1 (Gate.plan?_eq_some_iff.1 hplan).2.2).1 .header
    have hmissing := (isMissing_iff hplan hread).1 ⟨rejection, hrejected, hreports⟩
    obtain ⟨_, _, hlacks⟩ := (Gate.exists_missing_iff hdistinct).1 hmissing
    exact hlacks (Bag.has_ofHeaders_iff.2 (Request.exists_mem_headers_withId id request))

/-! ## Servers -/

variable {σ : Type} [Validator σ]

theorem id?_serve (server : Server σ) (id : String) (request : Request) :
    (server.serve id request).1.id? = some (request.id?.getD id) :=
  Request.id?_withId id request

/-- A request that arrives is replied to as the request with its identifier is. -/
theorem reply_serve (server : Server σ) (id : String) (request : Request) :
    (server.serve id request).1.reply = (server.reply (request.withId id)).1 := by
  unfold Server.serve deliver
  simp only

theorem reply_serveAll (server : Server σ) (arrivals : List (String × Request)) :
    (server.serveAll arrivals).1.map Delivery.reply =
      (server.replies (arrivals.map fun (id, request) => request.withId id)).1 := by
  unfold Server.serveAll Server.replies
  simp only [List.map_map, Function.comp_def, reply_serve]

/-- What is counted for a request is what is counted with the decision about it. -/
theorem events_reply (server : Server σ) (request : Request) :
    (server.reply request).2 = (admission server.gate server.limit request).2 := by
  unfold Server.reply
  generalize admission server.gate server.limit request = decided
  rfl

theorem events_replies (server : Server σ) (requests : List Request) :
    (server.replies requests).2 =
      requests.flatMap fun request => (admission server.gate server.limit request).2 := by
  unfold Server.replies
  simp only [List.flatMap_map, events_reply]

/-- What is counted for a request that arrives is what is counted with the decision about it and its
identifier. -/
theorem events_serve (server : Server σ) (id : String) (request : Request) :
    (server.serve id request).2 = (admission server.gate server.limit (request.withId id)).2 := by
  unfold Server.serve deliver
  simp only [events_reply]

/-- What is counted for requests that arrive is what is counted for the requests with their
identifiers. -/
theorem events_serveAll (server : Server σ) (arrivals : List (String × Request)) :
    (server.serveAll arrivals).2 =
      (server.replies (arrivals.map fun (id, request) => request.withId id)).2 := by
  rw [events_replies]
  unfold Server.serveAll
  simp only [List.flatMap_map, events_serve]

/-- What a server counts for requests that arrive one after another. -/
theorem countsDecisions_serveAll (server : Server σ) (arrivals : List (String × Request)) :
    CountsDecisions server.gate server.limit
      (arrivals.map fun (id, request) => request.withId id) (server.serveAll arrivals).2 := by
  rw [events_serveAll]
  exact countsDecisions_replies server _

/-- Where no rules are for identifiers, a server counts what it would count for the requests as they
were sent. -/
theorem events_serveAll_of_ignoresIds (server : Server Checker) {arrivals : List (String × Request)}
    (h : ∀ arrival ∈ arrivals, ∀ plan,
      server.gate.plan? arrival.2.target.path arrival.2.method = some plan → IgnoresIds plan) :
    (server.serveAll arrivals).2 = (server.replies (arrivals.map Prod.snd)).2 := by
  rw [events_serveAll, events_replies, events_replies]
  induction arrivals with
  | nil => rfl
  | cons arrival rest ih =>
    rw [List.forall_mem_cons] at h
    simp only [List.map_cons, List.flatMap_cons]
    rw [admission_withId server.limit arrival.1 h.1, ih h.2]

end Http
end RequestGate
