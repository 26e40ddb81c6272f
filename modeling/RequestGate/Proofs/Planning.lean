import RequestGate.Gate.Basic
import RequestGate.Proofs.RuleTable

/-!
# Plans and checks

A plan is made of the verb, the template that the path resolves to and the rules of that operation.  A
check by a plan calls the validator for every place with rules, up to a failing place in the fail-fast
mode; it succeeds when every place is valid, in either mode.

Main results:

- Theorem `Gate.plan?_eq_some_iff`: what a plan is.
- Theorem `Gate.check_eq_ok_iff`: a check succeeds exactly when all places are valid.
- Theorem `Gate.check_congr`: a check depends on what the validator answers only.
- Theorem `Gate.check_body_irrelevant`: a plan that does not take the body ignores it.
-/

namespace RequestGate

/-- Rules that do not take the body have none for form data and none for the body. -/
theorem LocationRules.not_body_of_mem_nonempty {rules : LocationRules}
    {entry : Location × FieldRules} (hmem : entry ∈ rules.nonempty)
    (hbody : rules.needsBody = false) : entry.1 ≠ .formData ∧ entry.1 ≠ .body := by
  obtain ⟨hfields, hnonempty⟩ := mem_nonempty.1 hmem
  unfold needsBody at hbody
  rw [Bool.or_eq_false_iff, Bool.not_eq_false', Bool.not_eq_false'] at hbody
  constructor
  · intro hlocation
    rw [hfields, hlocation, hbody.1] at hnonempty
    cases hnonempty
  · intro hlocation
    rw [hfields, hlocation, hbody.2] at hnonempty
    cases hnonempty

/-- A call without the bag that it was given. -/
def Call.withoutBag (made : Call) : Call :=
  { made with bag := [] }

@[simp] theorem Call.fails_withoutBag (made : Call) : made.withoutBag.fails = made.fails := rfl

@[simp] theorem Call.errors_withoutBag (made : Call) : made.withoutBag.errors = made.errors := rfl

@[simp] theorem Call.location_withoutBag (made : Call) : made.withoutBag.location = made.location := rfl

theorem Call.fails_eq_false_iff {made : Call} : made.fails = false ↔ made.verdict = .ok () := by
  unfold Call.fails
  cases made.verdict <;> simp

namespace Gate

variable {σ : Type}

/-! ## Plans -/

/-- A plan has the verb of the method, the template that the path resolves to, and the rules of that
operation. -/
theorem plan?_eq_some_iff {gate : Gate σ} {path method : String} {plan : Plan} :
    gate.plan? path method = some plan ↔
      Verb.ofName? method = some plan.verb ∧
        gate.compiled.routes.resolve? path = some ⟨plan.route, plan.captures⟩ ∧
          gate.compiled.rules.lookup? plan.route plan.verb = some plan.rules := by
  unfold plan?
  constructor
  · intro h
    obtain ⟨verb, hverb, h⟩ := Option.bind_eq_some_iff.1 h
    obtain ⟨⟨route, captures⟩, hresolution, h⟩ := Option.bind_eq_some_iff.1 h
    obtain ⟨rules, hrules, h⟩ := Option.bind_eq_some_iff.1 h
    cases h
    exact ⟨hverb, hresolution, hrules⟩
  · rintro ⟨hverb, hresolution, hrules⟩
    rw [hverb, hresolution]
    simp only [Option.bind_eq_bind, Option.bind_some, hrules]
    rfl

variable [Validator σ]

/-! ## Checks -/

/-- Every call is made for one of the places. -/
theorem exists_of_mem_callsFor {gate : Gate σ} {plan : Plan} {request : GateRequest} {made : Call}
    {entries : List (Location × FieldRules)} (h : made ∈ gate.callsFor plan request entries) :
    ∃ entry ∈ entries, made = gate.call plan request entry := by
  induction entries with
  | nil => exact absurd h List.not_mem_nil
  | cons entry rest ih =>
    unfold callsFor at h
    rcases List.mem_cons.1 h with rfl | h
    · exact ⟨entry, List.mem_cons_self, rfl⟩
    · split at h
      · exact absurd h List.not_mem_nil
      · obtain ⟨other, hother, hmade⟩ := ih h
        exact ⟨other, List.mem_cons_of_mem _ hother, hmade⟩

/-- No call fails exactly when no place does, although places after a failing one may be left out. -/
theorem callsFor_succeed_iff {gate : Gate σ} {plan : Plan} {request : GateRequest}
    {entries : List (Location × FieldRules)} :
    (∀ made ∈ gate.callsFor plan request entries, made.fails = false) ↔
      ∀ entry ∈ entries, (gate.call plan request entry).fails = false := by
  induction entries with
  | nil =>
    refine iff_of_true ?_ ?_
    · exact fun _ h => absurd h List.not_mem_nil
    · exact fun _ h => absurd h List.not_mem_nil
  | cons entry rest ih =>
    unfold callsFor
    rw [List.forall_mem_cons, List.forall_mem_cons]
    refine and_congr_right fun hentry => ?_
    rw [hentry]
    exact ih

/-- A check succeeds exactly when the validator accepts the bag of every place with rules. -/
theorem check_eq_ok_iff {gate : Gate σ} {plan : Plan} {request : GateRequest} :
    (gate.check plan request).1 = .ok () ↔ ∀ entry ∈ plan.rules.nonempty,
      Validator.validate gate.validator entry.2 (plan.bagAt request entry.1) = .ok () := by
  have hcalls : ((gate.calls plan request).filter Call.fails).isEmpty = true ↔
      ∀ made ∈ gate.calls plan request, made.fails = false := by
    rw [List.isEmpty_iff, List.filter_eq_nil_iff]
    simp only [Bool.not_eq_true]
  have hcheck : (gate.check plan request).1 = .ok () ↔
      ((gate.calls plan request).filter Call.fails).isEmpty = true := by
    unfold check
    simp only
    split
    · rename_i hempty
      exact iff_of_true rfl hempty
    · rename_i hempty
      exact iff_of_false (fun h => nomatch h) hempty
  rw [hcheck, hcalls]
  unfold calls
  rw [callsFor_succeed_iff]
  exact forall_congr' fun entry => imp_congr_right fun _ => Call.fails_eq_false_iff

/-- A rejection reports failures of calls. -/
theorem mem_errors_of_check_eq_error {gate : Gate σ} {plan : Plan} {request : GateRequest}
    {rejection : Rejection} (h : (gate.check plan request).1 = .error rejection) {e : FieldError}
    (he : e ∈ rejection.errors) : ∃ entry ∈ plan.rules.nonempty, ∃ invalid,
      Validator.validate gate.validator entry.2 (plan.bagAt request entry.1) = .error invalid ∧
        e ∈ invalid.locate entry.1 := by
  unfold check at h
  simp only at h
  split at h
  · cases h
  · cases h
    obtain ⟨made, hmade, hmem⟩ := List.mem_flatMap.1 he
    obtain ⟨entry, hentry, rfl⟩ := exists_of_mem_callsFor (List.mem_filter.1 hmade).1
    unfold Call.errors at hmem
    split at hmem
    · exact absurd hmem List.not_mem_nil
    · rename_i invalid hinvalid
      exact ⟨entry, hentry, invalid, hinvalid, hmem⟩

/-! ## What a check depends on -/

/-- Where the validator answers alike, the same calls are made but for their bags. -/
theorem map_withoutBag_callsFor {gate : Gate σ} {plan : Plan} {first second : GateRequest}
    {entries : List (Location × FieldRules)}
    (h : ∀ entry ∈ entries,
      Validator.validate gate.validator entry.2 (plan.bagAt first entry.1) =
        Validator.validate gate.validator entry.2 (plan.bagAt second entry.1)) :
    (gate.callsFor plan first entries).map Call.withoutBag =
      (gate.callsFor plan second entries).map Call.withoutBag := by
  induction entries with
  | nil => rfl
  | cons entry rest ih =>
    have hcall : (gate.call plan first entry).withoutBag =
        (gate.call plan second entry).withoutBag := by
      unfold call Call.withoutBag
      simp only [h entry List.mem_cons_self]
    have hfails : (gate.call plan first entry).withoutBag.fails =
        (gate.call plan second entry).withoutBag.fails := by rw [hcall]
    rw [Call.fails_withoutBag, Call.fails_withoutBag] at hfails
    have hrest := ih fun other hother => h other (List.mem_cons_of_mem _ hother)
    unfold callsFor
    simp only [List.map_cons, hcall, hfails]
    split
    · rfl
    · rw [hrest]

/-- A check depends on what the validator answers for the places that have rules, and on nothing else
of a request. -/
theorem check_congr {gate : Gate σ} {plan : Plan} {first second : GateRequest}
    (h : ∀ entry ∈ plan.rules.nonempty,
      Validator.validate gate.validator entry.2 (plan.bagAt first entry.1) =
        Validator.validate gate.validator entry.2 (plan.bagAt second entry.1)) :
    gate.check plan first = gate.check plan second := by
  have hfailing : ((gate.calls plan first).filter Call.fails).map Call.withoutBag =
      ((gate.calls plan second).filter Call.fails).map Call.withoutBag := by
    have hcalls := congrArg (List.filter Call.fails) (map_withoutBag_callsFor h)
    rwa [List.filter_map, List.filter_map] at hcalls
  -- What is reported and counted is read off from the failing calls without their bags.
  have hempty := congrArg List.isEmpty hfailing
  have herrors := congrArg (List.flatMap Call.errors) hfailing
  have hrejections := congrArg (List.map fun call => Event.rejection call.location) hfailing
  rw [List.isEmpty_map, List.isEmpty_map] at hempty
  rw [List.flatMap_map, List.flatMap_map] at herrors
  rw [List.map_map, List.map_map] at hrejections
  simp only [Function.comp_def, Call.location_withoutBag, Call.errors_withoutBag] at herrors hrejections
  unfold check
  simp only [hempty, herrors, hrejections]

/-- A plan that does not take the body is checked in the same way for every body. -/
theorem check_body_irrelevant {gate : Gate σ} {plan : Plan} (h : plan.needsBody = false)
    (request : GateRequest) (body : Bag) :
    gate.check plan { request with body := body } = gate.check plan request := by
  apply check_congr
  intro entry hentry
  congr 1
  obtain ⟨hform, hbody⟩ := LocationRules.not_body_of_mem_nonempty hentry h
  unfold Plan.bagAt
  cases hlocation : entry.1 with
  | formData => exact absurd hlocation hform
  | body => exact absurd hlocation hbody
  | query | header | path => rfl

end Gate

end RequestGate
