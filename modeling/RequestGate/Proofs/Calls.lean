import RequestGate.Proofs.Compilation
import RequestGate.Proofs.Planning
import RequestGate.Validation.Scripted

/-!
# The calls of a validator

A request to which rules apply is checked by one call for every place with rules, in the order of
places; in the fail-fast mode a failing call is the last one.  What the calls are is said apart from
what the result is made of: a run of the check with a validator that acts in a monad shows them, since
that validator may write down what it is called with.

Main results:

- Theorem `Gate.plan?_eq_some_iff_applies`: a plan holds the rules that apply.
- Theorem `Gate.callsFor_aggregate`, `Gate.callsFor_failFast`: the calls in either mode.
- Theorem `Gate.validateWith_recording`: a validator that writes down its calls writes down these.
- Theorem `Gate.makesCalls`: which calls a request makes, and what is made of their verdicts.
-/

namespace RequestGate

/-! ## Places -/

/-- The places that have rules, in the order of checking. -/
def LocationRules.places (rules : LocationRules) : List Location :=
  [.query, .header, .path, .formData, .body].filter fun location =>
    !(rules.fieldsAt location).isEmpty

theorem LocationRules.nonempty_eq_map (rules : LocationRules) :
    rules.nonempty = rules.places.map fun location => (location, rules.fieldsAt location) := by
  unfold nonempty places
  rw [List.filter_map]
  rfl

theorem LocationRules.map_fst_nonempty (rules : LocationRules) :
    rules.nonempty.map Prod.fst = rules.places := by
  rw [nonempty_eq_map, List.map_map]
  exact List.map_id _

/-- Some place has rules exactly when not all are empty. -/
theorem LocationRules.isEmpty_eq_false_iff {rules : LocationRules} :
    rules.isEmpty = false ↔ ∃ location, rules.fieldsAt location ≠ [] := by
  unfold isEmpty
  rw [List.all_eq_false]
  constructor
  · rintro ⟨location, _, hfields⟩
    exact ⟨location, fun hnil => hfields (List.isEmpty_iff.2 hnil)⟩
  · rintro ⟨location, hfields⟩
    exact ⟨location, Location.mem_all location, fun hempty => hfields (List.isEmpty_iff.1 hempty)⟩

theorem LocationRules.places_ne_nil {rules : LocationRules}
    (h : ∃ location, rules.fieldsAt location ≠ []) : rules.places ≠ [] := by
  obtain ⟨location, hfields⟩ := h
  refine List.ne_nil_of_mem (List.mem_filter.2 ⟨Location.mem_all location, ?_⟩)
  simpa using hfields

/-- A method is the verb that its name in lower case is the name of. -/
theorem Verb.ofName?_eq_some_iff {method : String} {verb : Verb} :
    Verb.ofName? method = some verb ↔ verb.name = Case.lowerAsciiText method := by
  unfold ofName?
  constructor
  · intro h
    simpa using List.find?_some h
  · intro h
    rw [← h]
    cases verb <;> decide

/-- What a call leaves to report, with its place. -/
def Call.failure? (made : Call) : Option (Location × InvalidParams) :=
  match made.verdict with
  | .ok () => none
  | .error invalid => some (made.location, invalid)

/-- A call passes and leaves nothing to report, or it fails and leaves its failure. -/
theorem Call.verdict_cases (made : Call) :
    (made.verdict = .ok () ∧ made.fails = false ∧ made.failure? = none ∧ made.errors = []) ∨
    ∃ invalid, made.verdict = .error invalid ∧ made.fails = true ∧
      made.failure? = some (made.location, invalid) ∧
      made.errors = invalid.locate made.location := by
  unfold fails failure? errors
  cases made.verdict with
  | ok => exact Or.inl ⟨rfl, rfl, rfl, rfl⟩
  | error invalid => exact Or.inr ⟨invalid, rfl, rfl, rfl, rfl⟩

/-- Calls that pass add no errors. -/
theorem Call.flatMap_errors_filter (made : List Call) :
    (made.filter Call.fails).flatMap Call.errors = made.flatMap Call.errors := by
  induction made with
  | nil => rfl
  | cons first rest ih =>
    rw [List.flatMap_cons, ← ih]
    rcases first.verdict_cases with ⟨_, hfails, _, herrors⟩ | ⟨_, _, hfails, _, _⟩
    · rw [List.filter_cons_of_neg (by simp [hfails]), herrors, List.nil_append]
    · rw [List.filter_cons_of_pos hfails, List.flatMap_cons]

/-- The errors of calls are those of their failures. -/
theorem Call.flatMap_locate (made : List Call) :
    ((made.filterMap Call.failure?).flatMap fun failure => failure.2.locate failure.1) =
      made.flatMap Call.errors := by
  induction made with
  | nil => rfl
  | cons first rest ih =>
    rw [List.flatMap_cons, ← ih]
    rcases first.verdict_cases with ⟨_, _, hfailure, herrors⟩ | ⟨_, _, _, hfailure, herrors⟩
    · rw [List.filterMap_cons_none hfailure, herrors, List.nil_append]
    · rw [List.filterMap_cons_some hfailure, List.flatMap_cons, herrors]

/-- Some call fails exactly when there is a failure. -/
theorem Call.isEmpty_filter_fails (made : List Call) :
    (made.filter Call.fails).isEmpty = (made.filterMap Call.failure?).isEmpty := by
  induction made with
  | nil => rfl
  | cons first rest ih =>
    rcases first.verdict_cases with ⟨_, hfails, hfailure, _⟩ | ⟨_, _, hfails, hfailure, _⟩
    · rw [List.filter_cons_of_neg (by simp [hfails]), List.filterMap_cons_none hfailure, ih]
    · rw [List.filter_cons_of_pos hfails, List.filterMap_cons_some hfailure]
      rfl

/-- Calls leave no failure exactly when all of them pass. -/
theorem Call.filterMap_failure?_eq_nil_iff (made : List Call) :
    made.filterMap Call.failure? = [] ↔ ∀ call ∈ made, call.verdict = .ok () := by
  rw [List.filterMap_eq_nil_iff]
  refine forall₂_congr fun call _ => ?_
  rcases call.verdict_cases with ⟨hverdict, _, hfailure, _⟩ | ⟨_, hverdict, _, hfailure, _⟩ <;>
    simp [hverdict, hfailure]

namespace Gate

variable {σ : Type}

/-! ## The rules that apply -/

/-- The rules of a plan apply to a request: its method is the verb in some case of the letters, its path
resolves to the route, and rules are recorded for that operation, with at least one place. -/
structure Applies (gate : Gate σ) (request : GateRequest) (plan : Plan) : Prop where
  verb : plan.verb.name = Case.lowerAsciiText request.method
  resolved : gate.compiled.routes.resolve? request.path = some ⟨plan.route, plan.captures⟩
  recorded : gate.compiled.rules.recorded? plan.route plan.verb = some (some plan.rules)
  has_rules : ∃ location, plan.rules.fieldsAt location ≠ []

/-- A plan holds the rules that apply. -/
theorem plan?_eq_some_iff_applies {gate : Gate σ} {request : GateRequest} {plan : Plan} :
    gate.plan? request.path request.method = some plan ↔ gate.Applies request plan := by
  rw [plan?_eq_some_iff, Verb.ofName?_eq_some_iff, RuleTable.lookup?_eq_some_iff,
    LocationRules.isEmpty_eq_false_iff]
  exact ⟨fun ⟨hverb, hresolved, hrecorded, hrules⟩ => ⟨hverb, hresolved, hrecorded, hrules⟩,
    fun h => ⟨h.verb, h.resolved, h.recorded, h.has_rules⟩⟩

variable [Validator σ]

/-! ## Calls in either mode -/

theorem callsFor_cons_of_fails {gate : Gate σ} {plan : Plan} {request : GateRequest}
    {entry : Location × FieldRules} (h : gate.mode = .failFast)
    (hfails : (gate.call plan request entry).fails = true) (rest : List (Location × FieldRules)) :
    gate.callsFor plan request (entry :: rest) = [gate.call plan request entry] := by
  simp [callsFor, h, hfails]

theorem callsFor_cons_of_passes {gate : Gate σ} {plan : Plan} {request : GateRequest}
    {entry : Location × FieldRules} (hpasses : (gate.call plan request entry).fails = false)
    (rest : List (Location × FieldRules)) :
    gate.callsFor plan request (entry :: rest) =
      gate.call plan request entry :: gate.callsFor plan request rest := by
  simp [callsFor, hpasses]

/-- In the aggregate mode no place is left out. -/
theorem callsFor_aggregate {gate : Gate σ} (h : gate.mode = .aggregate) (plan : Plan)
    (request : GateRequest) (entries : List (Location × FieldRules)) :
    gate.callsFor plan request entries = entries.map (gate.call plan request) := by
  induction entries with
  | nil => rfl
  | cons entry rest ih => simp [callsFor, h, ih]

/-- In the fail-fast mode all places pass, or the first that fails is the last one. -/
theorem callsFor_failFast {gate : Gate σ} (h : gate.mode = .failFast) (plan : Plan)
    (request : GateRequest) (entries : List (Location × FieldRules)) :
    (gate.callsFor plan request entries = entries.map (gate.call plan request) ∧
      ∀ entry ∈ entries, (gate.call plan request entry).fails = false) ∨
    ∃ before entry after, entries = before ++ entry :: after ∧
      gate.callsFor plan request entries =
        before.map (gate.call plan request) ++ [gate.call plan request entry] ∧
      (∀ earlier ∈ before, (gate.call plan request earlier).fails = false) ∧
      (gate.call plan request entry).fails = true := by
  induction entries with
  | nil => exact Or.inl ⟨rfl, fun _ hmem => absurd hmem List.not_mem_nil⟩
  | cons entry rest ih =>
    cases hfails : (gate.call plan request entry).fails with
    | true =>
      refine Or.inr ⟨[], entry, rest, rfl, callsFor_cons_of_fails h hfails rest, ?_, hfails⟩
      exact fun _ hmem => absurd hmem List.not_mem_nil
    | false =>
      rw [callsFor_cons_of_passes hfails]
      rcases ih with ⟨hcalls, hpass⟩ | ⟨before, last, after, rfl, hcalls, hpass, hlast⟩
      · refine Or.inl ⟨by rw [hcalls, List.map_cons], ?_⟩
        exact List.forall_mem_cons.2 ⟨hfails, hpass⟩
      · refine Or.inr ⟨entry :: before, last, after, rfl, ?_, ?_, hlast⟩
        · rw [hcalls, List.map_cons, List.cons_append]
        · exact List.forall_mem_cons.2 ⟨hfails, hpass⟩

/-- The calls that a request makes; without a plan it makes none. -/
def callsOf (gate : Gate σ) (request : GateRequest) : List Call :=
  ((gate.plan? request.path request.method).map (gate.calls · request)).getD []

/-! ## Validators that write down their calls -/

/-- Checks places one after another with a validator that acts in a monad, and keeps the failures with
their places.  In the fail-fast mode a failure is the last. -/
def checkPlaces {m : Type → Type} [Monad m]
    (validate : FieldRules → Bag → m (Except InvalidParams Unit)) (mode : Mode)
    (bagAt : Location → Bag) : List (Location × FieldRules) → m (List (Location × InvalidParams))
  | [] => pure []
  | (location, rules) :: rest => do
    match ← validate rules (bagAt location) with
    | .ok () => checkPlaces validate mode bagAt rest
    | .error invalid =>
      if mode = .failFast then return [(location, invalid)]
      else return (location, invalid) :: (← checkPlaces validate mode bagAt rest)

omit [Validator σ] in
/-- Validates a request with a validator that acts in a monad. -/
def validateWith {m : Type → Type} [Monad m] (gate : Gate σ)
    (validate : FieldRules → Bag → m (Except InvalidParams Unit)) (request : GateRequest) :
    m (Except Rejection Outcome) :=
  match gate.plan? request.path request.method with
  | none => return .ok .passedThrough
  | some plan => do
    match ← checkPlaces validate gate.mode (plan.bagAt request) plan.rules.nonempty with
    | [] => return .ok (.validated plan.route)
    | failures => return .error ⟨failures.flatMap fun (location, invalid) => invalid.locate location⟩

/-- The validator of a gate, writing down what it is called with. -/
def recording (gate : Gate σ) (rules : FieldRules) (bag : Bag) :
    StateM (List (FieldRules × Bag)) (Except InvalidParams Unit) := do
  modify (· ++ [(rules, bag)])
  return Validator.validate gate.validator rules bag

/-- A place that passes leaves a record of its call only. -/
theorem checkPlaces_cons_of_ok {gate : Gate σ} {mode : Mode} {bagAt : Location → Bag}
    {location : Location} {rules : FieldRules}
    (h : Validator.validate gate.validator rules (bagAt location) = .ok ())
    (rest : List (Location × FieldRules)) (written : List (FieldRules × Bag)) :
    (checkPlaces gate.recording mode bagAt ((location, rules) :: rest)).run written =
      (checkPlaces gate.recording mode bagAt rest).run (written ++ [(rules, bagAt location)]) := by
  simp [checkPlaces, recording, h]

/-- A place that fails leaves a record and its failure, and ends a check that is fail-fast. -/
theorem checkPlaces_cons_of_error {gate : Gate σ} {mode : Mode} {bagAt : Location → Bag}
    {location : Location} {rules : FieldRules} {invalid : InvalidParams}
    (h : Validator.validate gate.validator rules (bagAt location) = .error invalid)
    (rest : List (Location × FieldRules)) (written : List (FieldRules × Bag)) :
    (checkPlaces gate.recording mode bagAt ((location, rules) :: rest)).run written =
      let later := if mode = .failFast then ([], written ++ [(rules, bagAt location)])
        else (checkPlaces gate.recording mode bagAt rest).run (written ++ [(rules, bagAt location)])
      ((location, invalid) :: later.1, later.2) := by
  cases mode <;> simp [checkPlaces, recording, h] <;> rfl

/-- A check with a recording validator finds the failures of the calls, and writes down all calls. -/
theorem checkPlaces_recording (gate : Gate σ) (plan : Plan) (request : GateRequest)
    (entries : List (Location × FieldRules)) (written : List (FieldRules × Bag)) :
    (checkPlaces gate.recording gate.mode (plan.bagAt request) entries).run written =
      ((gate.callsFor plan request entries).filterMap Call.failure?,
        written ++ (gate.callsFor plan request entries).map fun made => (made.rules, made.bag)) := by
  -- Later places are checked when this one's call is written, so the records differ at each step.
  induction entries generalizing written with
  | nil =>
    rw [callsFor, List.map_nil, List.append_nil]
    rfl
  | cons entry rest ih =>
    obtain ⟨location, rules⟩ := entry
    cases hverdict : Validator.validate gate.validator rules (plan.bagAt request location) with
    | ok =>
      have hpasses : (gate.call plan request (location, rules)).fails = false := by
        simp [call, Call.fails, hverdict]
      have hfailure : (gate.call plan request (location, rules)).failure? = none := by
        simp [call, Call.failure?, hverdict]
      rw [checkPlaces_cons_of_ok hverdict, ih, callsFor_cons_of_passes hpasses,
        List.filterMap_cons_none hfailure]
      simp [call]
    | error invalid =>
      have hfails : (gate.call plan request (location, rules)).fails = true := by
        simp [call, Call.fails, hverdict]
      have hfailure : (gate.call plan request (location, rules)).failure? =
          some (location, invalid) := by
        simp [call, Call.failure?, hverdict]
      rw [checkPlaces_cons_of_error hverdict, ih]
      cases hmode : gate.mode with
      | failFast =>
        rw [callsFor_cons_of_fails hmode hfails, List.filterMap_cons_some hfailure]
        simp [call]
      | aggregate =>
        have hcons : gate.callsFor plan request ((location, rules) :: rest) =
            gate.call plan request (location, rules) :: gate.callsFor plan request rest := by
          simp [callsFor, hmode]
        rw [hcons, List.filterMap_cons_some hfailure]
        simp [call]

/-- The result of a check, by the failures of its calls. -/
theorem check_eq_failures (gate : Gate σ) (plan : Plan) (request : GateRequest) :
    (gate.check plan request).1 = match (gate.calls plan request).filterMap Call.failure? with
      | [] => .ok ()
      | failures => .error ⟨failures.flatMap fun failure => failure.2.locate failure.1⟩ := by
  unfold check
  simp only [Call.isEmpty_filter_fails, Call.flatMap_errors_filter,
    ← Call.flatMap_locate (gate.calls plan request)]
  cases (gate.calls plan request).filterMap Call.failure? <;> rfl

/-- A check whose calls all pass succeeds. -/
theorem check_of_passes {gate : Gate σ} {plan : Plan} {request : GateRequest}
    (h : ∀ made ∈ gate.calls plan request, made.verdict = .ok ()) :
    (gate.check plan request).1 = .ok () := by
  rw [check_eq_failures, (Call.filterMap_failure?_eq_nil_iff _).2 h]

/-- A check with a failing call reports the errors of all its calls, in their order. -/
theorem check_of_fails {gate : Gate σ} {plan : Plan} {request : GateRequest}
    (h : ¬ ∀ made ∈ gate.calls plan request, made.verdict = .ok ()) :
    (gate.check plan request).1 = .error ⟨(gate.calls plan request).flatMap Call.errors⟩ := by
  rw [← Call.filterMap_failure?_eq_nil_iff] at h
  rw [check_eq_failures, ← Call.flatMap_locate]
  cases hfailures : (gate.calls plan request).filterMap Call.failure? with
  | nil => exact absurd hfailures h
  | cons first rest => rfl

/-- A validator that writes down what it is called with gives the gate's own result, and it is called
with the calls of the request. -/
theorem validateWith_recording (gate : Gate σ) (request : GateRequest) :
    (gate.validateWith gate.recording request).run [] =
      ((gate.validate request).1, (gate.callsOf request).map fun made => (made.rules, made.bag)) := by
  unfold validateWith validate callsOf
  cases gate.plan? request.path request.method with
  | none => rfl
  | some plan =>
    have hrun := checkPlaces_recording gate plan request plan.rules.nonempty []
    rw [List.nil_append] at hrun
    simp only [StateT.run_bind, hrun, check_eq_failures, calls]
    cases (gate.callsFor plan request plan.rules.nonempty).filterMap Call.failure? <;> rfl

/-! ## Which calls a request makes -/

/-- The calls of a request to which the rules of a plan apply, and what is made of their verdicts. -/
structure CallsByPlan (gate : Gate σ) (request : GateRequest) (plan : Plan) : Prop where
  calls_ne_nil : gate.callsOf request ≠ []
  rules_eq : ∀ made ∈ gate.callsOf request, made.rules = plan.rules.fieldsAt made.location
  query_bag : ∀ made ∈ gate.callsOf request, made.location = .query →
    made.bag = Coercion.bag request.query
  header_bag : ∀ made ∈ gate.callsOf request, made.location = .header → made.bag = request.headers
  path_bag : ∀ made ∈ gate.callsOf request, made.location = .path →
    made.bag = match request.pathParams with
      | some given => given
      | none => plan.captures.map fun capture => (capture.1, .string capture.2)
  body_bag : ∀ made ∈ gate.callsOf request, made.location = .formData ∨ made.location = .body →
    made.bag = request.body
  verdict_eq : ∀ made ∈ gate.callsOf request,
    made.verdict = Validator.validate gate.validator made.rules made.bag
  /-- In the aggregate mode every place with rules has its call. -/
  aggregate : gate.mode = .aggregate → (gate.callsOf request).map Call.location = plan.rules.places
  /-- In the fail-fast mode every place with rules has its call up to the first that fails. -/
  failFast : gate.mode = .failFast →
    ((gate.callsOf request).map Call.location = plan.rules.places ∧
      ∀ made ∈ gate.callsOf request, made.verdict = .ok ()) ∨
    ∃ passing last later, gate.callsOf request = passing ++ [last] ∧
      (∀ made ∈ passing, made.verdict = .ok ()) ∧ (∃ invalid, last.verdict = .error invalid) ∧
      plan.rules.places = (gate.callsOf request).map Call.location ++ later
  accepted_iff : (∀ made ∈ gate.callsOf request, made.verdict = .ok ()) ↔
    (gate.validate request).1 = .ok (.validated plan.route)
  rejected : (¬ ∀ made ∈ gate.callsOf request, made.verdict = .ok ()) →
    (gate.validate request).1 = .error ⟨(gate.callsOf request).flatMap fun made =>
      match made.verdict with
      | .ok () => []
      | .error invalid => invalid.errors.map fun e => ⟨e.field, e.defect, some made.location⟩⟩

/-- The calls of a request. -/
structure MakesCalls (gate : Gate σ) (request : GateRequest) : Prop where
  /-- The calls are those that a validator writes down. -/
  recorded : (gate.validateWith gate.recording request).run [] =
    ((gate.validate request).1, (gate.callsOf request).map fun made => (made.rules, made.bag))
  passes : (¬ ∃ plan, gate.Applies request plan) →
    (gate.validate request).1 = .ok .passedThrough ∧ gate.callsOf request = []
  by_plan : ∀ plan, gate.Applies request plan → gate.CallsByPlan request plan

theorem callsOf_of_applies {gate : Gate σ} {request : GateRequest} {plan : Plan}
    (h : gate.Applies request plan) : gate.callsOf request = gate.calls plan request := by
  unfold callsOf
  rw [plan?_eq_some_iff_applies.2 h]
  rfl

/-- Every call is that of a place with rules. -/
theorem exists_of_mem_callsOf {gate : Gate σ} {request : GateRequest} {plan : Plan}
    (h : gate.Applies request plan) {made : Call} (hmade : made ∈ gate.callsOf request) :
    ∃ location ∈ plan.rules.places,
      made = gate.call plan request (location, plan.rules.fieldsAt location) := by
  rw [callsOf_of_applies h] at hmade
  obtain ⟨entry, hentry, rfl⟩ := exists_of_mem_callsFor hmade
  rw [LocationRules.nonempty_eq_map] at hentry
  obtain ⟨location, hlocation, rfl⟩ := List.mem_map.1 hentry
  exact ⟨location, hlocation, rfl⟩

/-- The places of the entries that are called for. -/
theorem map_location_call (gate : Gate σ) (plan : Plan) (request : GateRequest)
    (entries : List (Location × FieldRules)) :
    (entries.map (gate.call plan request)).map Call.location = entries.map Prod.fst := by
  rw [List.map_map]
  rfl

/-- The calls of the fail-fast mode are for all places, or up to the first that fails. -/
theorem calls_failFast {gate : Gate σ} (h : gate.mode = .failFast) (plan : Plan)
    (request : GateRequest) :
    ((gate.calls plan request).map Call.location = plan.rules.places ∧
      ∀ made ∈ gate.calls plan request, made.verdict = .ok ()) ∨
    ∃ passing last later, gate.calls plan request = passing ++ [last] ∧
      (∀ made ∈ passing, made.verdict = .ok ()) ∧ (∃ invalid, last.verdict = .error invalid) ∧
      plan.rules.places = (gate.calls plan request).map Call.location ++ later := by
  have hpassing : ∀ entries : List (Location × FieldRules),
      (∀ entry ∈ entries, (gate.call plan request entry).fails = false) →
        ∀ made ∈ entries.map (gate.call plan request), made.verdict = .ok () := by
    intro entries hpass made hmade
    obtain ⟨entry, hentry, rfl⟩ := List.mem_map.1 hmade
    exact Call.fails_eq_false_iff.1 (hpass entry hentry)
  unfold calls
  rcases callsFor_failFast h plan request plan.rules.nonempty with
    ⟨hall, hpass⟩ | ⟨before, entry, after, hsplit, hcut, hpass, hfails⟩
  · rw [hall, map_location_call, LocationRules.map_fst_nonempty]
    exact Or.inl ⟨rfl, hpassing _ hpass⟩
  · refine Or.inr ⟨_, _, after.map Prod.fst, hcut, hpassing before hpass, ?_, ?_⟩
    · rcases (gate.call plan request entry).verdict_cases with ⟨_, hpasses, _⟩ | ⟨invalid, hverdict, _⟩
      · rw [hpasses] at hfails
        cases hfails
      · exact ⟨invalid, hverdict⟩
    · rw [hcut, ← LocationRules.map_fst_nonempty, hsplit]
      simp [call]

/-- Without a plan a request passes through. -/
theorem validate_of_plan?_eq_none {gate : Gate σ} {request : GateRequest}
    (h : gate.plan? request.path request.method = none) :
    (gate.validate request).1 = .ok .passedThrough := by
  unfold validate
  rw [h]

/-- The result of validation by a plan is that of its check. -/
theorem validate_of_plan? {gate : Gate σ} {request : GateRequest} {plan : Plan}
    (h : gate.plan? request.path request.method = some plan) :
    (gate.validate request).1 = (gate.check plan request).1.map fun _ => .validated plan.route := by
  unfold validate
  rw [h]

/-- The calls of a request to which rules apply, by the mode. -/
theorem callsByPlan_of_applies {gate : Gate σ} {request : GateRequest} {plan : Plan}
    (h : gate.Applies request plan) : gate.CallsByPlan request plan := by
  have hcalls := callsOf_of_applies h
  have hresult := validate_of_plan? (plan?_eq_some_iff_applies.2 h)
  constructor
  case calls_ne_nil =>
    rw [hcalls]
    unfold calls
    cases hentries : plan.rules.nonempty with
    | nil =>
      have hplaces := LocationRules.map_fst_nonempty plan.rules
      rw [hentries] at hplaces
      exact absurd hplaces.symm (LocationRules.places_ne_nil h.has_rules)
    | cons entry rest => exact List.cons_ne_nil _ _
  case rules_eq =>
    intro made hmade
    obtain ⟨location, _, rfl⟩ := exists_of_mem_callsOf h hmade
    rfl
  case query_bag =>
    intro made hmade hlocation
    obtain ⟨location, _, rfl⟩ := exists_of_mem_callsOf h hmade
    obtain rfl : location = .query := hlocation
    rfl
  case header_bag =>
    intro made hmade hlocation
    obtain ⟨location, _, rfl⟩ := exists_of_mem_callsOf h hmade
    obtain rfl : location = .header := hlocation
    rfl
  case path_bag =>
    intro made hmade hlocation
    obtain ⟨location, _, rfl⟩ := exists_of_mem_callsOf h hmade
    obtain rfl : location = .path := hlocation
    show request.pathParams.getD plan.captureBag = _
    cases request.pathParams <;> rfl
  case body_bag =>
    intro made hmade hlocation
    obtain ⟨location, _, rfl⟩ := exists_of_mem_callsOf h hmade
    rcases (hlocation : location = .formData ∨ location = .body) with rfl | rfl <;> rfl
  case verdict_eq =>
    intro made hmade
    obtain ⟨location, _, rfl⟩ := exists_of_mem_callsOf h hmade
    rfl
  case aggregate =>
    intro hmode
    rw [hcalls, calls, callsFor_aggregate hmode, map_location_call, LocationRules.map_fst_nonempty]
  case failFast =>
    intro hmode
    rw [hcalls]
    exact calls_failFast hmode plan request
  case accepted_iff =>
    rw [hcalls, hresult]
    by_cases hpass : ∀ made ∈ gate.calls plan request, made.verdict = .ok ()
    · rw [check_of_passes hpass]
      exact iff_of_true hpass rfl
    · rw [check_of_fails hpass]
      exact iff_of_false hpass (fun heq => nomatch heq)
  case rejected =>
    rw [hcalls, hresult]
    intro hfails
    rw [check_of_fails hfails]
    rfl

/-- Which calls a request makes of a validator in either mode, with which bags, and what is made of the
verdicts. -/
theorem makesCalls (gate : Gate σ) (request : GateRequest) : gate.MakesCalls request := by
  constructor
  case recorded => exact validateWith_recording gate request
  case passes =>
    intro hnone
    have hplan : gate.plan? request.path request.method = none := by
      rw [Option.eq_none_iff_forall_ne_some]
      exact fun plan hsome => hnone ⟨plan, plan?_eq_some_iff_applies.1 hsome⟩
    refine ⟨validate_of_plan?_eq_none hplan, ?_⟩
    unfold callsOf
    rw [hplan]
    rfl
  case by_plan => exact fun plan h => callsByPlan_of_applies h

/-- Where the limit fails wherever it stands, the headers are looked at in the aggregate mode only. -/
example :
    let fields : FieldRules := [("limit", ⟨none, true, []⟩)]
    let compiled : Compiled := ⟨RuleTable.empty.insert "/pets" .get (some ⟨fields, fields, [], [], []⟩),
      Route.Index.ofList ["/pets"], []⟩
    let places (mode : Mode) : List Location :=
      ((Gate.mk compiled (⟨["limit"], none⟩ : ScriptedValidator) mode).callsOf
        ⟨"/pets", "GET", [], [], none, []⟩).map Call.location
    places .failFast = [.query] ∧ places .aggregate = [.query, .header] := by
  decide

end Gate
end RequestGate
