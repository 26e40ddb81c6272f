import Mathlib.Algebra.GroupWithZero.Nat
import Mathlib.Data.List.Count
import RequestGate.Proofs.Truncation

/-!
# What a gate counts

A gate counts the requests it validates by their outcome, the places that fail and the durations of its
checks.  What is counted for requests one after another is what is counted for each of them, so the
counters of a run add up because those of every single request do.

Main results:

- Theorem `Gate.check_cases`: a check succeeds, or it counts its failing calls.
- Theorem `Gate.countsOutcomes_validate`: a validation counts the outcome of its result.
- Theorem `Gate.tallies_validate`: the counters of a validation add up with its result.
- Theorem `Gate.tallies_validateAll`: the counters of a run of validations add up with the results.
-/

namespace RequestGate

/-! ## Results -/

/-- What validation gives for a request. -/
abbrev Result := Except Rejection Outcome

namespace Result

/-- No rules applied. -/
def isPassed : Result → Bool
  | .ok .passedThrough => true
  | _ => false

/-- All rules were satisfied. -/
def isValidated : Result → Bool
  | .ok (.validated _) => true
  | _ => false

/-- The request was rejected. -/
def isRejected : Result → Bool
  | .ok _ => false
  | .error _ => true

/-- The request was rejected with a failure at a place. -/
def isRejectedAt (location : Location) : Result → Bool
  | .ok _ => false
  | .error rejection => rejection.errors.any fun e => e.location = some location

/-- Every result is of one of three kinds. -/
theorem countP_add_countP (results : List Result) :
    results.countP isPassed + results.countP isValidated + results.countP isRejected =
      results.length := by
  induction results with
  | nil => rfl
  | cons result rest ih =>
    simp only [List.countP_cons, List.length_cons]
    rcases result with rejection | (_ | route) <;> simp [isPassed, isValidated, isRejected] <;> omega

end Result

/-! ## Counters -/

/-- How many failing places are counted, at all places together. -/
def Event.rejections (events : List Event) : Nat :=
  (Location.all.map fun location => events.count (.rejection location)).sum

theorem Event.rejections_append (first second : List Event) :
    rejections (first ++ second) = rejections first + rejections second := by
  simp only [rejections, Location.all, List.map_cons, List.map_nil, List.sum_cons, List.sum_nil,
    List.count_append]
  omega

/-- The outcomes that are counted are those of the results, and a duration is counted for every result
of a check. -/
structure CountsOutcomes (results : List Result) (events : List Event) : Prop where
  passed : events.count .passed = results.countP Result.isPassed
  validated : events.count .validated = results.countP Result.isValidated
  rejected : events.count .rejected = results.countP Result.isRejected
  durations : events.count .duration = events.count .validated + events.count .rejected

/-- What is counted adds up with the results of a gate in a mode: besides the outcomes, a place is counted
for every rejection that reports a failure there.  A rejection that fails fast has one such place. -/
structure Tallies (mode : Mode) (results : List Result) (events : List Event) : Prop
    extends CountsOutcomes results events where
  rejections : ∀ location,
    events.count (.rejection location) = results.countP (Result.isRejectedAt location)
  rejections_eq : mode = .failFast → Event.rejections events = events.count .rejected
  le_rejections : events.count .rejected ≤ Event.rejections events

theorem CountsOutcomes.nil : CountsOutcomes [] [] := by
  constructor <;> rfl

theorem CountsOutcomes.append {first second : List Result} {events more : List Event}
    (hfirst : CountsOutcomes first events) (hsecond : CountsOutcomes second more) :
    CountsOutcomes (first ++ second) (events ++ more) := by
  constructor <;> simp only [List.count_append, List.countP_append]
  case passed => rw [hfirst.passed, hsecond.passed]
  case validated => rw [hfirst.validated, hsecond.validated]
  case rejected => rw [hfirst.rejected, hsecond.rejected]
  case durations =>
    have hdurations := hfirst.durations
    have hmore := hsecond.durations
    omega

/-- The outcomes that are counted are as many as the results. -/
theorem CountsOutcomes.total {results : List Result} {events : List Event}
    (h : CountsOutcomes results events) :
    events.count .passed + events.count .validated + events.count .rejected = results.length := by
  rw [h.passed, h.validated, h.rejected, Result.countP_add_countP]

theorem Tallies.nil (mode : Mode) : Tallies mode [] [] where
  toCountsOutcomes := CountsOutcomes.nil
  rejections _ := rfl
  rejections_eq _ := rfl
  le_rejections := Nat.le_refl _

theorem Tallies.append {mode : Mode} {first second : List Result} {events more : List Event}
    (hfirst : Tallies mode first events) (hsecond : Tallies mode second more) :
    Tallies mode (first ++ second) (events ++ more) where
  toCountsOutcomes := hfirst.toCountsOutcomes.append hsecond.toCountsOutcomes
  rejections location := by
    rw [List.count_append, List.countP_append, hfirst.rejections, hsecond.rejections]
  rejections_eq hmode := by
    rw [Event.rejections_append, List.count_append, hfirst.rejections_eq hmode,
      hsecond.rejections_eq hmode]
  le_rejections := by
    rw [Event.rejections_append, List.count_append]
    exact Nat.add_le_add hfirst.le_rejections hsecond.le_rejections

/-- A result that is no rejection adds up when no place is counted. -/
theorem Tallies.of_accepted {mode : Mode} {outcome : Outcome} {events : List Event}
    (houtcomes : CountsOutcomes [.ok outcome] events)
    (hplaces : ∀ location, events.count (.rejection location) = 0) :
    Tallies mode [.ok outcome] events := by
  have hrejected : events.count .rejected = 0 := houtcomes.rejected
  have hrejections : Event.rejections events = 0 := by
    simp [Event.rejections, Location.all, hplaces]
  refine ⟨houtcomes, hplaces, fun _ => ?_, ?_⟩
  · rw [hrejections, hrejected]
  · rw [hrejections, hrejected]

/-! ## Failing calls -/

namespace Call

/-- What is counted for failing calls: the place of each. -/
def rejectionEvents (made : List Call) : List Event :=
  made.map fun call => .rejection call.location

/-- All failing calls are counted. -/
theorem rejections_rejectionEvents (made : List Call) :
    Event.rejections (rejectionEvents made) = made.length := by
  induction made with
  | nil => rfl
  | cons first rest ih =>
    have hfirst : Event.rejections [.rejection first.location] = 1 := by
      cases first.location <;> decide
    have hsplit : rejectionEvents (first :: rest) =
        [.rejection first.location] ++ rejectionEvents rest := rfl
    rw [hsplit, Event.rejections_append, hfirst, ih, List.length_cons, Nat.add_comm]

/-- Nothing but places is counted for failing calls. -/
theorem count_rejectionEvents {event : Event} (h : ∀ location, event ≠ .rejection location)
    (made : List Call) : (rejectionEvents made).count event = 0 := by
  rw [List.count_eq_zero]
  intro hmem
  obtain ⟨call, _, hcall⟩ := List.mem_map.1 hmem
  exact h call.location hcall.symm

/-- A place is counted once for calls in order, if one of them reports a failure there. -/
theorem count_rejection {made : List Call} (horder : InOrder made)
    (hsome : ∀ call ∈ made, call.errors ≠ []) (location : Location) :
    (rejectionEvents made).count (.rejection location) =
      if Result.isRejectedAt location (.error ⟨made.flatMap errors⟩) then 1 else 0 := by
  have hplaces : (made.map Call.location).Nodup := by
    rw [List.nodup_iff_pairwise_ne, List.pairwise_map]
    exact horder.imp fun hrank => ne_of_apply_ne Location.rank (Nat.ne_of_lt hrank)
  have hcount : (rejectionEvents made).count (.rejection location) =
      (made.map Call.location).count location := by
    have hinjective : Function.Injective Event.rejection := fun _ _ h => Event.rejection.inj h
    rw [← List.count_map_of_injective _ _ hinjective, List.map_map]
    rfl
  have hreported : Result.isRejectedAt location (.error ⟨made.flatMap errors⟩) = true ↔
      location ∈ made.map Call.location := by
    simp only [Result.isRejectedAt, List.any_eq_true, List.mem_flatMap, decide_eq_true_eq,
      List.mem_map]
    constructor
    · rintro ⟨e, ⟨call, hcall, he⟩, hlocation⟩
      rw [location_of_mem_errors he] at hlocation
      exact ⟨call, hcall, Option.some_inj.1 hlocation⟩
    · rintro ⟨call, hcall, rfl⟩
      obtain ⟨e, he⟩ := List.exists_mem_of_ne_nil _ (hsome call hcall)
      exact ⟨e, ⟨call, hcall, he⟩, location_of_mem_errors he⟩
  rw [hcount, hplaces.count]
  simp only [hreported]

/-- What is counted for a rejection: the failing calls, the rejection and the duration of the check. -/
def rejectedEvents (failing : List Call) : List Event :=
  rejectionEvents failing ++ [.rejected, .duration]

/-- Apart from places, one rejection and one duration are counted. -/
theorem count_rejectedEvents (event : Event) (h : ∀ location, event ≠ .rejection location)
    (failing : List Call) :
    (rejectedEvents failing).count event = [Event.rejected, .duration].count event := by
  rw [rejectedEvents, List.count_append, count_rejectionEvents h, Nat.zero_add]

theorem rejections_rejectedEvents (failing : List Call) :
    Event.rejections (rejectedEvents failing) = failing.length := by
  rw [rejectedEvents, Event.rejections_append, rejections_rejectionEvents]
  rfl

/-- The outcome that is counted for failing calls is a rejection. -/
theorem countsOutcomes_rejectedEvents (failing : List Call) (rejection : Rejection) :
    CountsOutcomes [.error rejection] (rejectedEvents failing) := by
  have hpassed := count_rejectedEvents .passed (fun _ h => nomatch h) failing
  have hvalidated := count_rejectedEvents .validated (fun _ h => nomatch h) failing
  have hrejected := count_rejectedEvents .rejected (fun _ h => nomatch h) failing
  have hduration := count_rejectedEvents .duration (fun _ h => nomatch h) failing
  constructor
  case passed => exact hpassed
  case validated => exact hvalidated
  case rejected => exact hrejected
  case durations =>
    rw [hduration, hvalidated, hrejected]
    rfl

/-- What is counted for failing calls adds up with their errors. -/
theorem tallies_rejectedEvents {mode : Mode} {failing : List Call} (hne : failing ≠ [])
    (horder : InOrder failing) (hsome : ∀ made ∈ failing, made.errors ≠ [])
    (hfast : mode = .failFast → failing.length ≤ 1) :
    Tallies mode [.error ⟨failing.flatMap errors⟩] (rejectedEvents failing) := by
  have hlength : 0 < failing.length := List.length_pos_of_ne_nil hne
  have houtcomes := countsOutcomes_rejectedEvents failing ⟨failing.flatMap errors⟩
  have hrejected : (rejectedEvents failing).count .rejected = 1 := houtcomes.rejected
  constructor
  case toCountsOutcomes => exact houtcomes
  case rejections =>
    intro location
    rw [rejectedEvents, List.count_append, count_rejection horder hsome, List.countP_singleton]
    rfl
  case rejections_eq =>
    intro hmode
    rw [rejections_rejectedEvents, hrejected]
    exact Nat.le_antisymm (hfast hmode) hlength
  case le_rejections =>
    rw [rejections_rejectedEvents, hrejected]
    exact hlength

end Call

namespace Gate

variable {σ : Type} [Validator σ]

/-! ## One request -/

/-- A check succeeds, or it reports and counts its failing calls: in the order of places, and only one
when it fails fast. -/
theorem check_cases (gate : Gate σ) (plan : Plan) (request : GateRequest) :
    gate.check plan request = (.ok (), [.validated]) ∨
    ∃ failing : List Call, failing ≠ [] ∧ Call.InOrder failing ∧
      (∀ made ∈ failing, made ∈ gate.calls plan request ∧ made.fails = true) ∧
      (gate.mode = .failFast → failing.length ≤ 1) ∧
      gate.check plan request =
        (.error ⟨failing.flatMap Call.errors⟩, Call.rejectionEvents failing ++ [.rejected]) := by
  cases hfailing : (gate.calls plan request).filter Call.fails with
  | nil =>
    left
    unfold check
    rw [hfailing]
    rfl
  | cons first rest =>
    right
    refine ⟨first :: rest, List.cons_ne_nil _ _, ?_, ?_, ?_, ?_⟩
    · rw [← hfailing]
      exact (gate.inOrder_calls plan request).filter Call.fails
    · rw [← hfailing]
      exact fun made hmade => List.mem_filter.1 hmade
    · intro hmode
      rw [← hfailing, calls, filter_fails_callsFor hmode]
      exact List.length_take_le _ _
    · unfold check
      rw [hfailing]
      rfl

/-- What validation by a plan gives and counts is what the check does, and a duration. -/
theorem validate_eq_of_plan? {gate : Gate σ} {request : GateRequest} {plan : Plan}
    (h : gate.plan? request.path request.method = some plan) :
    gate.validate request = ((gate.check plan request).1.map fun _ => .validated plan.route,
      (gate.check plan request).2 ++ [.duration]) := by
  unfold validate
  rw [h]

/-- A validation without a plan counts one request that passes. -/
theorem validate_eq_of_plan?_eq_none {gate : Gate σ} {request : GateRequest}
    (h : gate.plan? request.path request.method = none) :
    gate.validate request = (.ok .passedThrough, [.passed]) := by
  unfold validate
  rw [h]

/-- A validation counts one outcome: that of its result. -/
theorem countsOutcomes_validate (gate : Gate σ) (request : GateRequest) :
    CountsOutcomes [(gate.validate request).1] (gate.validate request).2 := by
  cases hplan : gate.plan? request.path request.method with
  | none =>
    rw [validate_eq_of_plan?_eq_none hplan]
    constructor <;> rfl
  | some plan =>
    rw [validate_eq_of_plan? hplan]
    rcases gate.check_cases plan request with hcheck | ⟨failing, _, _, _, _, hcheck⟩
    · rw [hcheck]
      constructor <;> rfl
    · rw [hcheck, List.append_assoc]
      exact Call.countsOutcomes_rejectedEvents failing _

/-- The counters of one validation add up with its result. -/
theorem tallies_validate {gate : Gate σ} (hreports : ReportsFields gate.validator)
    (request : GateRequest) :
    Tallies gate.mode [(gate.validate request).1] (gate.validate request).2 := by
  have houtcomes := gate.countsOutcomes_validate request
  cases hplan : gate.plan? request.path request.method with
  | none =>
    rw [validate_eq_of_plan?_eq_none hplan] at houtcomes ⊢
    exact .of_accepted houtcomes fun _ => rfl
  | some plan =>
    rw [validate_eq_of_plan? hplan] at houtcomes ⊢
    rcases gate.check_cases plan request with
      hcheck | ⟨failing, hne, horder, hfailing, hfast, hcheck⟩
    · rw [hcheck] at houtcomes ⊢
      exact .of_accepted houtcomes fun _ => rfl
    · have hsome : ∀ made ∈ failing, made.errors ≠ [] := by
        intro made hmade
        obtain ⟨hcall, hfails⟩ := hfailing made hmade
        obtain ⟨entry, _, rfl⟩ := exists_of_mem_callsFor hcall
        exact errors_ne_nil_of_fails hreports hfails
      rw [hcheck, List.append_assoc]
      exact Call.tallies_rejectedEvents hne horder hsome hfast

/-! ## Runs of validations -/

/-- The results of requests validated one after another, and what is counted for all of them. -/
def validateAll (gate : Gate σ) (requests : List GateRequest) : List Result × List Event :=
  let answered := requests.map gate.validate
  (answered.map Prod.fst, answered.flatMap Prod.snd)

/-- The counters of a run of validations add up with the results, in either mode. -/
theorem tallies_run {gate : Gate σ} (hreports : ReportsFields gate.validator)
    (requests : List GateRequest) :
    Tallies gate.mode (gate.validateAll requests).1 (gate.validateAll requests).2 := by
  induction requests with
  | nil => exact Tallies.nil gate.mode
  | cons request rest ih => exact (tallies_validate hreports request).append ih

/-- The counters of a gate add up: for every run of validations they agree with the results, and every
request is counted with one outcome. -/
theorem tallies_validateAll (gate : Gate Checker) (requests : List GateRequest) :
    Tallies gate.mode (gate.validateAll requests).1 (gate.validateAll requests).2 ∧
      (gate.validateAll requests).2.count .passed + (gate.validateAll requests).2.count .validated +
        (gate.validateAll requests).2.count .rejected = requests.length := by
  have htallies := tallies_run gate.validator.reportsFields requests
  refine ⟨htallies, ?_⟩
  rw [htallies.total, validateAll, List.length_map, List.length_map]

/-- Where the limit fails at two places, a request is one rejection and counts both in the aggregate
mode only. -/
example :
    let fields : FieldRules := [("limit", ⟨none, true, []⟩)]
    let compiled : Compiled := ⟨RuleTable.empty.insert "/pets" .get (some ⟨fields, fields, [], [], []⟩),
      Route.Index.ofList ["/pets"], []⟩
    let events (mode : Mode) : List Event :=
      ((Gate.mk compiled (⟨["limit"], none⟩ : ScriptedValidator) mode).validate
        ⟨"/pets", "GET", [], [], none, []⟩).2
    events .failFast = [.rejection .query, .rejected, .duration] ∧
      events .aggregate = [.rejection .query, .rejection .header, .rejected, .duration] := by
  decide

end Gate

end RequestGate
