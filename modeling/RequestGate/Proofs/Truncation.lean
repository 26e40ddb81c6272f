import Mathlib.Data.List.TakeWhile
import RequestGate.Proofs.Calls
import RequestGate.Proofs.Faithfulness
import RequestGate.Proofs.Vetting

/-!
# Failing fast is a truncation

A gate in the fail-fast mode accepts what it accepts in the aggregate mode, and it reports the first
stretch of the failures that the aggregate mode reports: those of the first place that fails.  The
failures of an aggregate report stand in the order of places, and those of one place in the order of
its rules.

Main results:

- Theorem `Gate.filter_fails_callsFor`: the failing call of the fail-fast mode is the first one.
- Theorem `Checker.reportsFields`: a checker reports fields in the order of their rules.
- Theorem `Gate.isOrderedBy_of_check_eq_error`: the order of what is reported.
- Theorem `Gate.prepare_isTruncation`: the two modes of a gate that starts.
-/

namespace RequestGate

/-! ## What a validator reports -/

/-- A validator that rejects a bag reports fields of the rules, in their order, and at least one. -/
structure ReportsFields {σ : Type} [Validator σ] (validator : σ) : Prop where
  errors_ne_nil : ∀ rules bag invalid,
    Validator.validate validator rules bag = .error invalid → invalid.errors ≠ []
  fields_sublist : ∀ rules bag invalid,
    Validator.validate validator rules bag = .error invalid →
      (invalid.errors.map FieldError.field).Sublist rules.names

namespace Checker

theorem field_of_fieldError? {checker : Checker} {data : Bag} {entry : String × Rule}
    {e : FieldError} (h : checker.fieldError? data entry = some e) : e.field = entry.1 := by
  unfold fieldError? at h
  split at h
  · split at h
    · cases h
      rfl
    · cases h
  · split at h
    · cases h
      rfl
    · cases h
  · split at h
    · cases h
    · cases h
      rfl

/-- The fields that fail stand in the order of the rules. -/
theorem map_field_sublist (checker : Checker) (data : Bag) (rules : FieldRules) :
    ((rules.filterMap (checker.fieldError? data)).map FieldError.field).Sublist rules.names := by
  induction rules with
  | nil => exact List.Sublist.slnil
  | cons entry rest ih =>
    cases herror : checker.fieldError? data entry with
    | none =>
      rw [List.filterMap_cons_none herror]
      exact ih.cons entry.1
    | some e =>
      rw [List.filterMap_cons_some herror, List.map_cons, field_of_fieldError? herror]
      exact ih.cons_cons entry.1

/-- A checker reports fields of the rules in their order. -/
theorem reportsFields (checker : Checker) : ReportsFields checker := by
  have hcases : ∀ rules bag invalid, checker.validate rules bag = .error invalid →
      invalid.errors ≠ [] ∧ invalid.errors = rules.filterMap (checker.fieldError? bag) := by
    intro rules bag invalid h
    unfold validate at h
    split at h
    · cases h
    · rename_i hsome
      cases h
      exact ⟨hsome, rfl⟩
  constructor
  · exact fun rules bag invalid h => (hcases rules bag invalid h).1
  · intro rules bag invalid h
    rw [(hcases rules bag invalid h).2]
    exact map_field_sublist checker bag rules

end Checker

/-! ## The failures of calls -/

namespace Call

/-- Calls that stand in the order of their places, one for a place. -/
def InOrder (made : List Call) : Prop :=
  made.Pairwise fun a b => a.location.rank < b.location.rank

/-- Later calls are for other places. -/
theorem InOrder.location_ne {first other : Call} {rest : List Call} (h : InOrder (first :: rest))
    (hother : other ∈ rest) : other.location ≠ first.location := by
  have hrank := (List.pairwise_cons.1 h).1 other hother
  exact ne_of_apply_ne Location.rank (Nat.ne_of_gt hrank)

/-- Every failure of a call stands at its place. -/
theorem location_of_mem_errors {made : Call} {e : FieldError} (h : e ∈ made.errors) :
    e.location = some made.location := by
  rcases made.verdict_cases with ⟨_, _, _, herrors⟩ | ⟨invalid, _, _, _, herrors⟩
  · rw [herrors] at h
    exact absurd h List.not_mem_nil
  · rw [herrors] at h
    obtain ⟨other, _, rfl⟩ := List.mem_map.1 h
    rfl

/-- Calls for other places have no failures at a place. -/
theorem filter_flatMap_errors_eq_nil {made : List Call} {location : Location}
    (h : ∀ call ∈ made, call.location ≠ location) :
    (made.flatMap errors).filter (fun e => e.location = some location) = [] := by
  rw [List.filter_eq_nil_iff]
  intro e he
  obtain ⟨call, hcall, hmem⟩ := List.mem_flatMap.1 he
  rw [location_of_mem_errors hmem, decide_eq_true_eq, Option.some_inj]
  exact h call hcall

/-- Of the failures of calls in order, those at one place are those of its call. -/
theorem filter_flatMap_errors {made : List Call} (h : InOrder made) {call : Call}
    (hcall : call ∈ made) :
    (made.flatMap errors).filter (fun e => e.location = some call.location) = call.errors := by
  induction made with
  | nil => exact absurd hcall List.not_mem_nil
  | cons first rest ih =>
    rw [List.flatMap_cons, List.filter_append]
    rcases List.mem_cons.1 hcall with rfl | hcall
    · have hall : call.errors.filter (fun e => e.location = some call.location) = call.errors := by
        rw [List.filter_eq_self]
        exact fun e he => decide_eq_true (location_of_mem_errors he)
      rw [hall, filter_flatMap_errors_eq_nil fun other => h.location_ne, List.append_nil]
    · have hnone : first.errors.filter (fun e => e.location = some call.location) = [] := by
        rw [List.filter_eq_nil_iff]
        intro e he
        rw [location_of_mem_errors he, decide_eq_true_eq, Option.some_inj]
        exact (h.location_ne hcall).symm
      rw [hnone, ih (List.Pairwise.of_cons h) hcall, List.nil_append]

/-- The failures at the place of the first failure are those of the first call. -/
theorem takeWhile_flatMap_errors {first : Call} {rest : List Call} (h : InOrder (first :: rest))
    (hsome : first.errors ≠ []) :
    ((first :: rest).flatMap errors).takeWhile (fun e =>
      e.location = Rejection.location? ⟨(first :: rest).flatMap errors⟩) = first.errors := by
  have hlocation : Rejection.location? ⟨(first :: rest).flatMap errors⟩ = some first.location := by
    obtain ⟨e, es, herrors⟩ := List.exists_cons_of_ne_nil hsome
    have he : e ∈ first.errors := by simp [herrors]
    simp [Rejection.location?, herrors, location_of_mem_errors he]
  -- No later failure stands at that place, so the stretch ends with the failures of the first call.
  have hrest : (rest.flatMap errors).takeWhile (fun e => e.location = some first.location) = [] := by
    have hnone := filter_flatMap_errors_eq_nil fun other => h.location_ne
    rw [List.takeWhile_eq_nil_iff]
    exact fun hlength => List.filter_eq_nil_iff.1 hnone _ (List.get_mem _ _)
  rw [hlocation, List.flatMap_cons, List.takeWhile_append_of_pos, hrest, List.append_nil]
  exact fun e he => decide_eq_true (location_of_mem_errors he)

end Call

/-! ## Rejections -/

/-- The failures of a rejection stand in the order of places, and those of one place in the order of
its rules, each field once. -/
structure Rejection.IsOrderedBy (rejection : Rejection) (rules : LocationRules) : Prop where
  located : ∀ e ∈ rejection.errors, ∃ location, e.location = some location
  places_in_order : rejection.errors.Pairwise fun a b => ∀ first second,
    a.location = some first → b.location = some second → first.rank ≤ second.rank
  fields_in_order : ∀ location,
    ((rejection.errors.filter fun e => e.location = some location).map FieldError.field).Sublist
      (rules.fieldsAt location).names
  fields_once : ∀ location,
    ((rejection.errors.filter fun e => e.location = some location).map FieldError.field).Nodup

namespace Gate

variable {σ : Type} [Validator σ]

/-- Calls are made in the order of the entries. -/
theorem inOrder_callsFor (gate : Gate σ) (plan : Plan) (request : GateRequest)
    {entries : List (Location × FieldRules)}
    (h : entries.Pairwise fun a b => a.1.rank < b.1.rank) :
    Call.InOrder (gate.callsFor plan request entries) := by
  induction entries with
  | nil => exact List.Pairwise.nil
  | cons entry rest ih =>
    rw [List.pairwise_cons] at h
    unfold callsFor
    refine List.Pairwise.cons ?_ ?_
    · intro made hmade
      split at hmade
      · exact absurd hmade List.not_mem_nil
      · obtain ⟨other, hother, rfl⟩ := exists_of_mem_callsFor hmade
        exact h.1 other hother
    · split
      · exact List.Pairwise.nil
      · exact ih h.2

/-- Calls are made in the order of places. -/
theorem inOrder_calls (gate : Gate σ) (plan : Plan) (request : GateRequest) :
    Call.InOrder (gate.calls plan request) :=
  gate.inOrder_callsFor plan request (LocationRules.pairwise_nonempty plan.rules)

/-- The fields that a call reports are fields of its rules, in their order. -/
theorem fields_sublist_of_mem_calls {gate : Gate σ} (hreports : ReportsFields gate.validator)
    {plan : Plan} {request : GateRequest} {made : Call} (hmade : made ∈ gate.calls plan request) :
    (made.errors.map FieldError.field).Sublist (plan.rules.fieldsAt made.location).names := by
  obtain ⟨entry, hentry, rfl⟩ := exists_of_mem_callsFor hmade
  have hrules := (LocationRules.mem_nonempty.1 hentry).1
  rcases (gate.call plan request entry).verdict_cases with
    ⟨_, _, _, herrors⟩ | ⟨invalid, hverdict, _, _, herrors⟩
  · rw [herrors]
    exact List.nil_sublist _
  · have hfields : (invalid.locate entry.1).map FieldError.field =
        invalid.errors.map FieldError.field := by
      unfold InvalidParams.locate
      rw [List.map_map]
      rfl
    rw [herrors, show (gate.call plan request entry).location = entry.1 from rfl, hfields, ← hrules]
    exact hreports.fields_sublist _ _ _ hverdict

/-- What a check reports stands in the order of places and of rules. -/
theorem isOrderedBy_of_check_eq_error {gate : Gate σ} (hreports : ReportsFields gate.validator)
    {plan : Plan} (hdistinct : ∀ location, (plan.rules.fieldsAt location).Distinct)
    {request : GateRequest} {rejection : Rejection}
    (h : (gate.check plan request).1 = .error rejection) : rejection.IsOrderedBy plan.rules := by
  have hfails : ¬ ∀ made ∈ gate.calls plan request, made.verdict = .ok () := by
    intro hpass
    rw [check_of_passes hpass] at h
    cases h
  rw [check_of_fails hfails] at h
  cases h
  have horder := gate.inOrder_calls plan request
  have hsublist : ∀ location, ((((gate.calls plan request).flatMap Call.errors).filter fun e =>
      e.location = some location).map FieldError.field).Sublist
        (plan.rules.fieldsAt location).names := by
    intro location
    by_cases hcalled : ∃ made ∈ gate.calls plan request, made.location = location
    · obtain ⟨made, hmade, rfl⟩ := hcalled
      rw [Call.filter_flatMap_errors horder hmade]
      exact fields_sublist_of_mem_calls hreports hmade
    · have hother : ∀ made ∈ gate.calls plan request, made.location ≠ location :=
        fun made hmade hsame => hcalled ⟨made, hmade, hsame⟩
      rw [Call.filter_flatMap_errors_eq_nil hother]
      exact List.nil_sublist _
  constructor
  case located =>
    intro e he
    obtain ⟨made, _, hmem⟩ := List.mem_flatMap.1 he
    exact ⟨made.location, Call.location_of_mem_errors hmem⟩
  case places_in_order =>
    show ((gate.calls plan request).flatMap Call.errors).Pairwise _
    rw [List.pairwise_flatMap]
    constructor
    · intro made _
      refine List.pairwise_of_forall_mem_list fun a ha b hb first second hfirst hsecond => ?_
      rw [Call.location_of_mem_errors ha] at hfirst
      rw [Call.location_of_mem_errors hb] at hsecond
      cases hfirst
      cases hsecond
      exact Nat.le_refl _
    · refine horder.imp fun hrank a ha b hb first second hfirst hsecond => ?_
      rw [Call.location_of_mem_errors ha] at hfirst
      rw [Call.location_of_mem_errors hb] at hsecond
      cases hfirst
      cases hsecond
      exact Nat.le_of_lt hrank
  case fields_in_order => exact hsublist
  case fields_once => exact fun location => (hdistinct location).sublist (hsublist location)

/-! ## Two modes -/

/-- The failing call of the fail-fast mode is the first one of those that fail. -/
theorem filter_fails_callsFor {gate : Gate σ} (h : gate.mode = .failFast) (plan : Plan)
    (request : GateRequest) (entries : List (Location × FieldRules)) :
    (gate.callsFor plan request entries).filter Call.fails =
      ((entries.map (gate.call plan request)).filter Call.fails).take 1 := by
  have hpassing : ∀ before : List (Location × FieldRules),
      (∀ entry ∈ before, (gate.call plan request entry).fails = false) →
        (before.map (gate.call plan request)).filter Call.fails = [] := by
    intro before hpass
    rw [List.filter_eq_nil_iff]
    intro made hmade
    obtain ⟨entry, hentry, rfl⟩ := List.mem_map.1 hmade
    rw [hpass entry hentry]
    exact Bool.false_ne_true
  rcases callsFor_failFast h plan request entries with
    ⟨hall, hpass⟩ | ⟨before, entry, after, rfl, hcut, hpass, hfails⟩
  · rw [hall, hpassing entries hpass]
    rfl
  · rw [hcut, List.map_append, List.map_cons, List.filter_append, List.filter_append,
      hpassing before hpass, List.filter_cons_of_pos hfails, List.filter_cons_of_pos hfails]
    rfl

/-- What a gate makes of a request in the fail-fast mode is cut from what it makes in the aggregate
mode: it accepts the same with the same outcome, and otherwise it reports the longest stretch of
failures at the place of the first. -/
structure IsTruncation (fast full : Gate σ) (request : GateRequest) : Prop where
  accepted_iff : ∀ outcome,
    (fast.validate request).1 = .ok outcome ↔ (full.validate request).1 = .ok outcome
  truncated : ∀ all, (full.validate request).1 = .error all →
    ∃ first, (fast.validate request).1 = .error first ∧ first.errors ≠ [] ∧
      first.errors = all.errors.takeWhile fun e => e.location = all.location?
  ordered : ∀ all, (full.validate request).1 = .error all →
    ∃ plan, full.plan? request.path request.method = some plan ∧ all.IsOrderedBy plan.rules

/-- The gate with another mode. -/
def inMode (gate : Gate σ) (mode : Mode) : Gate σ :=
  { gate with mode := mode }

/-- The two results of a check: both succeed, or the first failing call is all that the fail-fast mode
reports. -/
theorem check_inMode_cases (gate : Gate σ) (plan : Plan) (request : GateRequest) :
    (((gate.inMode .failFast).check plan request).1 = .ok () ∧
      ((gate.inMode .aggregate).check plan request).1 = .ok ()) ∨
    ∃ first rest, (∃ entry ∈ plan.rules.nonempty, first = gate.call plan request entry) ∧
      first.fails = true ∧ Call.InOrder (first :: rest) ∧
      ((gate.inMode .failFast).check plan request).1 = .error ⟨first.errors⟩ ∧
      ((gate.inMode .aggregate).check plan request).1 =
        .error ⟨(first :: rest).flatMap Call.errors⟩ := by
  have hfast : ((gate.inMode .failFast).calls plan request).filter Call.fails =
      ((plan.rules.nonempty.map (gate.call plan request)).filter Call.fails).take 1 :=
    filter_fails_callsFor rfl plan request plan.rules.nonempty
  have hfull : (gate.inMode .aggregate).calls plan request =
      plan.rules.nonempty.map (gate.call plan request) :=
    callsFor_aggregate rfl plan request plan.rules.nonempty
  have horder : Call.InOrder (((gate.inMode .aggregate).calls plan request).filter Call.fails) :=
    ((gate.inMode .aggregate).inOrder_calls plan request).filter Call.fails
  unfold check
  rw [hfast]
  rw [hfull] at horder ⊢
  cases hfailing : (plan.rules.nonempty.map (gate.call plan request)).filter Call.fails with
  | nil => exact Or.inl ⟨rfl, rfl⟩
  | cons first rest =>
    have hfirst : first ∈ (plan.rules.nonempty.map (gate.call plan request)).filter Call.fails := by
      rw [hfailing]
      exact List.mem_cons_self
    obtain ⟨hmade, hfails⟩ := List.mem_filter.1 hfirst
    obtain ⟨entry, hentry, hcall⟩ := List.mem_map.1 hmade
    rw [hfailing] at horder
    refine Or.inr ⟨first, rest, ⟨entry, hentry, hcall.symm⟩, hfails, horder, ?_, rfl⟩
    simp

/-- Two gates that accept a request with the same outcome. -/
theorem IsTruncation.of_accepted {fast full : Gate σ} {request : GateRequest} {outcome : Outcome}
    (hfast : (fast.validate request).1 = .ok outcome)
    (hfull : (full.validate request).1 = .ok outcome) : IsTruncation fast full request := by
  constructor
  · exact fun other => by rw [hfast, hfull]
  · exact fun all h => absurd (hfull.symm.trans h) (fun heq => nomatch heq)
  · exact fun all h => absurd (hfull.symm.trans h) (fun heq => nomatch heq)

/-- Two gates that reject a request, one with the failures of the first call only. -/
theorem IsTruncation.of_rejected {fast full : Gate σ} {request : GateRequest} {plan : Plan}
    {first : Call} {rest : List Call} (horder : Call.InOrder (first :: rest))
    (hsome : first.errors ≠ []) (hplan : full.plan? request.path request.method = some plan)
    (hordered : Rejection.IsOrderedBy ⟨(first :: rest).flatMap Call.errors⟩ plan.rules)
    (hfast : (fast.validate request).1 = .error ⟨first.errors⟩)
    (hfull : (full.validate request).1 = .error ⟨(first :: rest).flatMap Call.errors⟩) :
    IsTruncation fast full request := by
  constructor
  · intro outcome
    rw [hfast, hfull]
    exact iff_of_false (fun heq => nomatch heq) (fun heq => nomatch heq)
  · intro all h
    cases hfull.symm.trans h
    exact ⟨_, hfast, hsome, (Call.takeWhile_flatMap_errors horder hsome).symm⟩
  · intro all h
    cases hfull.symm.trans h
    exact ⟨plan, hplan, hordered⟩

/-- A call that fails has something to report. -/
theorem errors_ne_nil_of_fails {gate : Gate σ} (hreports : ReportsFields gate.validator)
    {plan : Plan} {request : GateRequest} {entry : Location × FieldRules}
    (h : (gate.call plan request entry).fails = true) :
    (gate.call plan request entry).errors ≠ [] := by
  rcases (gate.call plan request entry).verdict_cases with
    ⟨_, hpasses, _⟩ | ⟨invalid, hverdict, _, _, herrors⟩
  · rw [hpasses] at h
    cases h
  · have hinvalid : invalid.errors ≠ [] := hreports.errors_ne_nil _ _ _ hverdict
    rw [herrors]
    exact fun hnil => hinvalid (List.map_eq_nil_iff.1 hnil)

/-- A gate that fails fast truncates what it reports, when its validator reports fields in the order of
their rules. -/
theorem isTruncation_inMode {gate : Gate σ} (hreports : ReportsFields gate.validator)
    {request : GateRequest}
    (hdistinct : ∀ plan, gate.plan? request.path request.method = some plan →
      ∀ location, (plan.rules.fieldsAt location).Distinct) :
    IsTruncation (gate.inMode .failFast) (gate.inMode .aggregate) request := by
  cases hplan : gate.plan? request.path request.method with
  | none =>
    have hpassed : ∀ mode, ((gate.inMode mode).validate request).1 = .ok .passedThrough :=
      fun mode => validate_of_plan?_eq_none hplan
    exact .of_accepted (hpassed .failFast) (hpassed .aggregate)
  | some plan =>
    have hresult : ∀ mode, ((gate.inMode mode).validate request).1 =
        ((gate.inMode mode).check plan request).1.map fun _ => .validated plan.route :=
      fun mode => validate_of_plan? hplan
    rcases gate.check_inMode_cases plan request with
      ⟨hfast, hfull⟩ | ⟨first, rest, ⟨entry, _, rfl⟩, hfails, horder, hfast, hfull⟩
    · have haccepted : ∀ mode, ((gate.inMode mode).check plan request).1 = .ok () →
          ((gate.inMode mode).validate request).1 = .ok (.validated plan.route) :=
        fun mode hok => by rw [hresult, hok]; rfl
      exact .of_accepted (haccepted _ hfast) (haccepted _ hfull)
    · have hrejected : ∀ mode rejection,
          ((gate.inMode mode).check plan request).1 = .error rejection →
            ((gate.inMode mode).validate request).1 = .error rejection :=
        fun mode rejection herror => by rw [hresult, herror]; rfl
      have hvalidator : ReportsFields (gate.inMode .aggregate).validator := hreports
      exact .of_rejected horder (errors_ne_nil_of_fails hreports hfails) hplan
        (isOrderedBy_of_check_eq_error hvalidator (hdistinct plan hplan) hfull)
        (hrejected _ _ hfast) (hrejected _ _ hfull)

/-! ## Gates that start -/

/-- A gate that starts in one mode starts in every mode, and differs in the mode only. -/
theorem prepare_inMode {description : Description} {settings : ValidationSettings}
    {gate : Gate Checker} (h : prepare description settings = .ok gate) (mode : Mode) :
    prepare description { settings with mode := mode } = .ok (gate.inMode mode) := by
  -- The result of the compilation is named without the gate, which the case below replaces.
  obtain ⟨compiled, hcompile⟩ : ∃ compiled, description.compile = .ok compiled :=
    ⟨gate.compiled, compile_of_prepare h⟩
  rw [prepare_eq hcompile] at h ⊢
  split at h
  · rename_i checker hvetted
    cases h
    simp only [hvetted]
    rfl
  · cases h

/-- A gate that starts in some mode starts in both, and on every request failing fast is a truncation
of reporting all failures. -/
theorem prepare_isTruncation {description : Description} {settings : ValidationSettings}
    {gate : Gate Checker} (h : prepare description settings = .ok gate) :
    ∃ fast full : Gate Checker,
      prepare description { settings with mode := .failFast } = .ok fast ∧
      prepare description { settings with mode := .aggregate } = .ok full ∧
      ∀ request, IsTruncation fast full request := by
  refine ⟨_, _, prepare_inMode h .failFast, prepare_inMode h .aggregate, fun request => ?_⟩
  refine isTruncation_inMode gate.validator.reportsFields fun plan hplan => ?_
  have hrules := (RuleTable.lookup?_eq_some_iff.1 (plan?_eq_some_iff.1 hplan).2.2).1
  exact Description.distinct_fieldsAt_compile (compile_of_prepare h) hrules

/-- A description with an operation that requires a header between two parameters of the query. -/
def demanding : Description where
  swagger := none
  openapi := none
  paths :=
    [("/users", ⟨fun
        | .get => some ⟨none, some [
            ⟨some "page", some "query", some "int", some true, none, none, none⟩,
            ⟨some "X-Key", some "header", none, some true, none, none, none⟩,
            ⟨some "order", some "query", none, some true, none, none, none⟩], none⟩
        | _ => none⟩)]

/-- The hypothesis is satisfied where two places fail: failing fast leaves out the header. -/
theorem demanding_isTruncation : ∃ (gate fast full : Gate Checker) (first all : Rejection),
    prepare demanding .default = .ok gate ∧
    (∀ request, IsTruncation fast full request) ∧
    (fast.validate ⟨"/users", "GET", [], [], none, []⟩).1 = .error first ∧
    (full.validate ⟨"/users", "GET", [], [], none, []⟩).1 = .error all ∧
    first.errors.map FieldError.field = ["page", "order"] ∧
    all.errors.map FieldError.field = ["page", "order", "x-key"] := by
  obtain ⟨fast, full, hfast, hfull, htruncation⟩ :=
    prepare_isTruncation (rfl : prepare demanding .default = .ok _)
  have hall : ∃ (aggregate : Gate Checker) (all : Rejection),
      prepare demanding { ValidationSettings.default with mode := .aggregate } = .ok aggregate ∧
      (aggregate.validate ⟨"/users", "GET", [], [], none, []⟩).1 = .error all ∧
      all.errors.map FieldError.field = ["page", "order", "x-key"] ∧
      (all.errors.takeWhile fun e => e.location = all.location?).map FieldError.field =
        ["page", "order"] := ⟨_, _, rfl, rfl, by decide, by decide⟩
  obtain ⟨aggregate, all, haggregate, hrejected, hfields, hstretch⟩ := hall
  obtain rfl := Except.ok.inj (hfull.symm.trans haggregate)
  obtain ⟨first, hfirst, _, hcut⟩ := (htruncation _).truncated all hrejected
  exact ⟨_, fast, full, first, all, rfl, htruncation, hfirst, hrejected, hcut ▸ hstretch, hfields⟩

end Gate
end RequestGate
