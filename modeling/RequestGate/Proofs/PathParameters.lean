import RequestGate.Proofs.Calls
import RequestGate.Proofs.Faithfulness
import RequestGate.Proofs.GreatestMatch
import RequestGate.Proofs.Precedence
import RequestGate.Proofs.Vetting

/-!
# Path parameters of a matched route

A placeholder that is a whole segment of a path key becomes a parameter of its route, and a path that
the route fits has a value for it.  The values are texts, so a request that is planned for an operation
lacks none of its path parameters, if each of them has such a placeholder.  A placeholder with something
beside it in its segment is no parameter, or one of another name.

Main results:

- Theorem `Route.parameter_mem_templateSegments`: whole placeholders are parameters.
- Theorem `Route.Index.mem_names_captures`: the parameters of a template are captured, and no others.
- Theorem `Operation.RecordedAs.required_of_mem_path`: rules for the path are always required.
- Theorem `Gate.check_ne_ok_of_notMem`: a path parameter that is no parameter of the route is missing
  from every planned request.
- Theorem `Gate.lacks_no_path_parameter`: one with a placeholder is missing from none.
- Theorem `Gate.lacks_path_parameter`: placeholders have to be whole segments.
-/

namespace RequestGate
namespace Route

open Pieces

/-! ## Placeholders -/

/-- A name can stand in a placeholder. -/
structure IsPlaceholderName (name : String) : Prop where
  ne_empty : name ≠ ""
  braceless : ∀ c ∈ name.toList, c ≠ '\x7b' ∧ c ≠ '\x7d'

instance (name : String) : Decidable (IsPlaceholderName name) :=
  decidable_of_iff (name ≠ "" ∧ name.toList.all (fun c => c ≠ '\x7b' ∧ c ≠ '\x7d') = true)
    ⟨fun h => ⟨h.1, fun c hc => by simpa using List.all_eq_true.1 h.2 c hc⟩,
      fun h => ⟨h.ne_empty, List.all_eq_true.2 fun c hc => by simpa using h.braceless c hc⟩⟩

/-- A placeholder is everything between two slashes, or between a slash and an end, of a path key.
Closing braces beside it do not count, since no closing brace is left in a route. -/
def HasWholePlaceholder (key name : String) : Prop :=
  ∃ piece ∈ pieces '/' key.toList, piece.filter (· ≠ '\x7d') = '\x7b' :: name.toList

/-- A placeholder as it is written is a whole one. -/
theorem hasWholePlaceholder_of_mem {key name : String} (hname : IsPlaceholderName name)
    (h : (Segment.parameter name).braced ∈ pieces '/' key.toList) : HasWholePlaceholder key name := by
  refine ⟨_, h, ?_⟩
  have hkept : name.toList.filter (· ≠ '\x7d') = name.toList :=
    List.filter_eq_self.2 fun c hc => decide_eq_true (hname.braceless c hc).2
  have hclose : ['\x7d'].filter (· ≠ '\x7d') = [] := by decide
  rw [Segment.braced, List.filter_cons_of_pos (by decide), List.filter_append, hkept, hclose,
    List.append_nil]

/-- Closing braces do not count when a key is rewritten. -/
theorem rewritten_filter (text : List Char) :
    rewritten (text.filter (· ≠ '\x7d')) = rewritten text := by
  unfold rewritten
  rw [List.filter_map, List.filter_map, List.filter_filter]
  congr 1
  refine List.filter_congr ?_
  intro c _
  by_cases hclose : c = '\x7d'
  · subst hclose
    rfl
  · simp [hclose]

/-- A whole placeholder is rewritten to a colon and its name. -/
theorem rewritten_of_filter_eq {piece : List Char} {name : String} (hname : IsPlaceholderName name)
    (h : piece.filter (· ≠ '\x7d') = '\x7b' :: name.toList) :
    rewritten piece = ':' :: name.toList := by
  have hkept : rewritten name.toList = name.toList := rewritten_of_forall_ne hname.braceless
  have hopen : rewritten ['\x7b'] = [':'] := by decide
  calc rewritten piece = rewritten (['\x7b'] ++ name.toList) := by rw [← rewritten_filter, h]; rfl
    _ = ':' :: name.toList := by rw [rewritten_append, hopen, hkept]; rfl

theorem rewritten_cons (c : Char) (text : List Char) :
    rewritten (c :: text) =
      if c = '\x7d' then rewritten text else (if c = '\x7b' then ':' else c) :: rewritten text := by
  unfold rewritten
  by_cases hclose : c = '\x7d'
  · subst hclose
    rfl
  · have hkept : (if c = '\x7b' then ':' else c) ≠ '\x7d' := by
      split
      · decide
      · exact hclose
    rw [if_neg hclose, List.map_cons, List.filter_cons_of_pos (by simpa using hkept)]

/-- Rewriting keeps the places of slashes. -/
theorem pieces_rewritten (text : List Char) :
    pieces '/' (rewritten text) = (pieces '/' text).map rewritten := by
  induction text with
  | nil => rfl
  | cons c text ih =>
    cases hpieces : pieces '/' text with
    | nil => exact absurd hpieces (pieces_ne_nil _ _)
    | cons first rest =>
      rw [hpieces, List.map_cons] at ih
      rw [rewritten_cons, pieces_cons]
      by_cases hslash : c = '/'
      · subst hslash
        rw [if_neg (by decide), if_neg (by decide), if_pos rfl, pieces_cons, if_pos rfl, ih, hpieces]
        rfl
      · rw [if_neg hslash, hpieces]
        by_cases hclose : c = '\x7d'
        · rw [if_pos hclose, ih, consFirst, List.map_cons, rewritten_cons, if_pos hclose]
        · have hkept : (if c = '\x7b' then ':' else c) ≠ '/' := by
            split
            · decide
            · exact hslash
          rw [if_neg hclose, pieces_cons, if_neg hkept, ih, consFirst, consFirst, List.map_cons,
            rewritten_cons, if_neg hclose]

/-- Nonempty pieces are not lost with a slash at the front. -/
theorem mem_pieces_dropFirst {text piece : List Char} (hne : piece ≠ [])
    (h : piece ∈ pieces '/' text) : piece ∈ pieces '/' (dropFirst '/' text) := by
  cases text with
  | nil => exact h
  | cons c text =>
    rw [dropFirst]
    split
    case isTrue hslash =>
      rw [pieces_cons, if_pos hslash, List.mem_cons] at h
      exact h.resolve_left hne
    case isFalse => exact h

/-- A slash at the end adds an empty piece. -/
theorem pieces_append_slash (text : List Char) :
    pieces '/' (text ++ ['/']) = pieces '/' text ++ [[]] := by
  induction text with
  | nil => rfl
  | cons c text ih =>
    rw [List.cons_append, pieces_cons, pieces_cons, ih]
    split
    case isTrue => rfl
    case isFalse =>
      cases hpieces : pieces '/' text with
      | nil => exact absurd hpieces (pieces_ne_nil _ _)
      | cons first rest => rfl

/-- Nonempty pieces are not lost with a slash at the end. -/
theorem mem_pieces_dropLast {text piece : List Char} (hne : piece ≠ [])
    (h : piece ∈ pieces '/' text) : piece ∈ pieces '/' (dropLast '/' text) := by
  obtain ⟨slash, htext⟩ := exists_eq_dropLast_append text
  rw [htext] at h
  cases slash with
  | false =>
    have hending : ending false = [] := rfl
    rwa [hending, List.append_nil] at h
  | true =>
    have hending : ending true = ['/'] := rfl
    rw [hending, pieces_append_slash, List.mem_append, List.mem_singleton] at h
    exact h.resolve_right hne

/-- A placeholder that is a whole segment is a parameter of the route. -/
theorem parameter_mem_templateSegments {key name : String} (hname : IsPlaceholderName name)
    (h : HasWholePlaceholder key name) : .parameter name ∈ templateSegments (ofBraces key) := by
  obtain ⟨piece, hwhole, hpiece⟩ := h
  have hcolon : ':' :: name.toList ∈ pieces '/' (rewritten key.toList) := by
    rw [pieces_rewritten, ← rewritten_of_filter_eq hname hpiece]
    exact List.mem_map_of_mem hwhole
  have hroute : (ofBraces key).toList = rewritten key.toList := String.toList_ofList
  have hsegment : String.ofList (':' :: name.toList) ∈ segments (ofBraces key) := by
    unfold segments
    rw [hroute]
    refine List.mem_map_of_mem ?_
    apply mem_pieces_dropLast (List.cons_ne_nil _ _)
    exact mem_pieces_dropFirst (List.cons_ne_nil _ _) hcolon
  exact List.mem_map.2 ⟨_, hsegment, Segment.ofText_parameter hname.ne_empty⟩

/-! ## Captures -/

/-- A name has a value exactly when it is that of a parameter of the template that a path resolves
to. -/
theorem Index.mem_names_captures {index : Index} {path : String} {template name : String}
    {captures : Captures} (hresolve : index.resolve? path = some ⟨template, captures⟩) :
    name ∈ captures.names ↔ .parameter name ∈ templateSegments template := by
  unfold resolve? at hresolve
  obtain ⟨found, _, hfound⟩ := List.exists_of_findSome?_eq_some hresolve
  obtain ⟨values, hcapture, hsame⟩ := Option.map_eq_some_iff.1 hfound
  cases hsame
  have hcaptures := (capture?_eq_some_iff_matches.1 hcapture).2
  rw [hcaptures.names, List.mem_eraseDups, mem_filterMap_name?]

end Route

/-! ## Declared path parameters -/

/-- A path parameter declares one rule, under its own name. -/
theorem Parameter.mem_declaredAt_path {parameter : Parameter}
    {entry : String × Except ParameterFault Rule} :
    entry ∈ parameter.declaredAt .path ↔ parameter.location = some Location.path.name ∧
      parameter.name = some entry.1 ∧ entry.2 = parameter.ownRule .path entry.1 := by
  obtain ⟨key, rule⟩ := entry
  -- only the names of headers are changed
  have hkey : ∀ name, LocationRules.fieldKey .path name = name := fun name => if_neg (by decide)
  unfold declaredAt
  by_cases hlocation : parameter.location = some Location.path.name
  · rw [if_pos hlocation, if_neg (by decide)]
    simp only [hkey, List.mem_map, Option.mem_toList, Prod.mk.injEq]
    constructor
    · rintro ⟨name, hname, rfl, rfl⟩
      exact ⟨hlocation, hname, rfl⟩
    · rintro ⟨_, hname, rfl⟩
      exact ⟨key, hname, rfl, rfl⟩
  · rw [if_neg hlocation]
    exact iff_of_false List.not_mem_nil fun h => hlocation h.1

/-- Declared rules have every key once. -/
theorem FieldRules.DeclaredBy.distinct {rules : FieldRules}
    {declared : List (String × Except ParameterFault Rule)} (h : rules.DeclaredBy declared) :
    Fields.Distinct rules := by
  unfold Fields.Distinct
  rw [h.names_eq]
  exact Fields.nodup_eraseDups _

namespace Operation

/-- Every path parameter of an operation has a placeholder in a path key. -/
def HasPlaceholdersIn (operation : Operation) (key : String) : Prop :=
  ∀ parameter ∈ operation.parameters.getD [], parameter.location = some Location.path.name →
    ∀ name, parameter.name = some name →
      Route.IsPlaceholderName name ∧ Route.HasWholePlaceholder key name

/-- The rules of an operation are declared by its parameters. -/
theorem RecordedAs.declaredBy {operation : Operation} {rules : LocationRules}
    (h : operation.RecordedAs (some rules)) (location : Location) :
    FieldRules.DeclaredBy (rules.fieldsAt location)
      ((operation.parameters.getD []).flatMap (Parameter.declaredAt location)) := by
  unfold RecordedAs at h
  cases hparameters : operation.parameters with
  | none =>
    rw [hparameters] at h
    exact absurd h id
  | some parameters =>
    rw [hparameters] at h
    exact h location

/-- The rules for the path stand under the names of the declared path parameters. -/
theorem RecordedAs.mem_pathNames {operation : Operation} {rules : LocationRules}
    (h : operation.RecordedAs (some rules)) {name : String} :
    name ∈ (rules.fieldsAt .path).names ↔ ∃ parameter ∈ operation.parameters.getD [],
      parameter.location = some Location.path.name ∧ parameter.name = some name := by
  rw [(h.declaredBy .path).names_eq, List.mem_eraseDups]
  constructor
  · intro hname
    obtain ⟨declared, hdeclared, rfl⟩ := List.mem_map.1 hname
    obtain ⟨parameter, hparameter, hmem⟩ := List.mem_flatMap.1 hdeclared
    obtain ⟨hlocation, hname, _⟩ := Parameter.mem_declaredAt_path.1 hmem
    exact ⟨parameter, hparameter, hlocation, hname⟩
  · rintro ⟨parameter, hparameter, hlocation, hname⟩
    have hmem : (name, parameter.ownRule .path name) ∈ parameter.declaredAt .path :=
      Parameter.mem_declaredAt_path.2 ⟨hlocation, hname, rfl⟩
    exact List.mem_map.2 ⟨_, List.mem_flatMap.2 ⟨parameter, hparameter, hmem⟩, rfl⟩

/-- Every rule for the path is required, whatever its options say. -/
theorem RecordedAs.required_of_mem_path {operation : Operation} {rules : LocationRules}
    (h : operation.RecordedAs (some rules)) {entry : String × Rule}
    (hentry : entry ∈ rules.fieldsAt .path) : entry.2.required = true := by
  have hdeclared := h.declaredBy .path
  have hget : Fields.get? entry.1 (rules.fieldsAt .path) = some entry.2 :=
    (Fields.get?_eq_some_iff_mem hdeclared.distinct).2 hentry
  have hlast := hdeclared.get?_eq entry.1
  rw [hget] at hlast
  obtain ⟨parameter, _, hmem⟩ := List.mem_flatMap.1 (Fields.mem_of_lastOf_eq_some hlast.symm)
  have hown := (Parameter.mem_declaredAt_path.1 hmem).2.2
  obtain ⟨built, _, hrule⟩ := Fallible.map_eq_ok_iff.1 hown.symm
  rw [← hrule, if_pos rfl]

end Operation

/-- A captured value is a text in the bag for the path. -/
theorem Plan.get?_captureBag (plan : Plan) (name : String) :
    Fields.get? name plan.captureBag = (Fields.get? name plan.captures).map Json.string := by
  unfold captureBag
  induction plan.captures with
  | nil => rfl
  | cons entry rest ih =>
    rw [List.map_cons, Fields.get?_cons, Fields.get?_cons, ih]
    split <;> rfl

theorem Plan.ne_null_of_get?_captureBag (plan : Plan) {name : String} {value : Json}
    (h : Fields.get? name plan.captureBag = some value) : value ≠ .null := by
  rw [get?_captureBag] at h
  obtain ⟨text, _, rfl⟩ := Option.map_eq_some_iff.1 h
  simp

/-! ## Planned requests -/

namespace Gate

/-- The rules of a plan are those of the last operation that is declared for its route and method. -/
theorem recordedAs_of_plan? {description : Description} {settings : ValidationSettings}
    {gate : Gate Checker} (hprepare : prepare description settings = .ok gate)
    {path method : String} {plan : Plan} (hplan : gate.plan? path method = some plan)
    {declaration : Declaration}
    (hlast : (Description.declarationsFor plan.route plan.verb description.paths).getLast? =
      some declaration) : declaration.operation.RecordedAs (some plan.rules) := by
  have hrecorded := (RuleTable.lookup?_eq_some_iff.1 (plan?_eq_some_iff.1 hplan).2.2).1
  have hrecords := Description.records_compile (compile_of_prepare hprepare) plan.route plan.verb
  unfold Description.declarationsFor at hlast
  unfold Description.declarations at hrecords
  rw [hrecorded, hlast] at hrecords
  exact Compiled.recordedAs_of_operationRules (Option.some.inj hrecords).symm

/-- A planned request has no value for a name exactly when its route has no such parameter. -/
theorem get?_captureBag_eq_none_iff {gate : Gate Checker} {path method : String} {plan : Plan}
    (hplan : gate.plan? path method = some plan) {name : String} :
    Fields.get? name plan.captureBag = none ↔
      .parameter name ∉ Route.templateSegments plan.route := by
  have hresolve := (plan?_eq_some_iff.1 hplan).2.1
  rw [Plan.get?_captureBag, Option.map_eq_none_iff, Fields.get?_eq_none_iff,
    Route.Index.mem_names_captures hresolve]

/-- Without values from elsewhere, the bag for the path is the captured one. -/
theorem bagAt_path {plan : Plan} {request : GateRequest} (hown : request.pathParams = none) :
    plan.bagAt request .path = plan.captureBag := by
  unfold Plan.bagAt
  rw [hown]
  rfl

/-- An operation with a path parameter that its route does not have rejects every planned request, when
no other values are given for path parameters. -/
theorem check_ne_ok_of_notMem {description : Description} {settings : ValidationSettings}
    {gate : Gate Checker} (hprepare : prepare description settings = .ok gate)
    {request : GateRequest} {plan : Plan}
    (hplan : gate.plan? request.path request.method = some plan) {declaration : Declaration}
    (hlast : (Description.declarationsFor plan.route plan.verb description.paths).getLast? =
      some declaration) {name : String}
    (hdeclared : ∃ parameter ∈ declaration.operation.parameters.getD [],
      parameter.location = some Location.path.name ∧ parameter.name = some name)
    (hunnamed : .parameter name ∉ Route.templateSegments plan.route)
    (hown : request.pathParams = none) : (gate.check plan request).1 ≠ .ok () := by
  intro hok
  have hrules := recordedAs_of_plan? hprepare hplan hlast
  obtain ⟨⟨key, rule⟩, hentry, rfl⟩ := List.mem_map.1 (hrules.mem_pathNames.2 hdeclared)
  have hnonempty : (Location.path, plan.rules.fieldsAt .path) ∈ plan.rules.nonempty := by
    refine LocationRules.mem_nonempty.2 ⟨rfl, ?_⟩
    exact List.isEmpty_eq_false_iff_exists_mem.2 ⟨_, hentry⟩
  have hvalidate : gate.validator.validate (plan.rules.fieldsAt .path) plan.captureBag = .ok () :=
    bagAt_path hown ▸ check_eq_ok_iff.1 hok _ hnonempty
  have hmissing : gate.validator.fieldError? plan.captureBag (key, rule) = some (.missing key) := by
    unfold Checker.fieldError?
    rw [(get?_captureBag_eq_none_iff hplan).2 hunnamed]
    exact if_pos (hrules.required_of_mem_path hentry)
  unfold Checker.validate at hvalidate
  split at hvalidate
  · rename_i hnone
    have hpassed := List.filterMap_eq_nil_iff.1 hnone _ hentry
    rw [hmissing] at hpassed
    cases hpassed
  · cases hvalidate

/-- A planned request lacks none of the path parameters of its operation, when each of them has a
placeholder of its own in the path key and no other values are given for them. -/
theorem lacks_no_path_parameter {description : Description} {settings : ValidationSettings}
    {gate : Gate Checker} (hprepare : prepare description settings = .ok gate)
    {request : GateRequest} {plan : Plan}
    (hplan : gate.plan? request.path request.method = some plan) {declaration : Declaration}
    (hlast : (Description.declarationsFor plan.route plan.verb description.paths).getLast? =
      some declaration)
    (hplaceholders : declaration.operation.HasPlaceholdersIn declaration.template)
    (hown : request.pathParams = none) {rejection : Rejection}
    (hcheck : (gate.check plan request).1 = .error rejection) :
    ∀ e ∈ rejection.errors, ¬ (e.location = some .path ∧ e.defect = .missing) := by
  rintro e he ⟨hlocation, hmissing⟩
  obtain ⟨location, entry, hentry, found, hfield, rfl⟩ := exists_of_mem_errors hcheck he
  obtain rfl : location = .path := Option.some.inj hlocation
  have hrules := recordedAs_of_plan? hprepare hplan hlast
  have hdeclared : entry.1 ∈ (plan.rules.fieldsAt .path).names := List.mem_map_of_mem hentry
  obtain ⟨parameter, hparameter, hplace, hname⟩ := hrules.mem_pathNames.1 hdeclared
  obtain ⟨hplain, hplaceholder⟩ := hplaceholders parameter hparameter hplace entry.1 hname
  have hroute : declaration.route = plan.route :=
    (Description.mem_declarationsFor.1 (List.mem_of_getLast? hlast)).1.1
  have hsegment : .parameter entry.1 ∈ Route.templateSegments plan.route :=
    hroute ▸ Route.parameter_mem_templateSegments hplain hplaceholder
  rw [bagAt_path hown] at hfield
  cases hget : Fields.get? entry.1 plan.captureBag with
  | none => exact (get?_captureBag_eq_none_iff hplan).1 hget hsegment
  | some value =>
    have hvalue : value ≠ .null := plan.ne_null_of_get?_captureBag hget
    rw [Checker.fieldError?_of_ne_null hget hvalue] at hfield
    split at hfield
    · cases hfield
    · cases hfield
      cases hmissing

/-- A description with one operation, which has one path parameter. -/
def addressed (key name : String) (kind : Option String) : Description where
  swagger := none
  openapi := none
  paths :=
    [(key, ⟨fun
        | .get => some ⟨none, some [⟨some name, some "path", kind, none, none, none, none⟩], none⟩
        | _ => none⟩)]

/-- The hypotheses are satisfied where a text is captured for a parameter that has to be an object. -/
theorem user_lacks_no_path_parameter : ∃ (gate : Gate Checker) (plan : Plan) (rejection : Rejection),
    prepare (addressed "/users/\x7bid\x7d" "id" (some "object")) .default = .ok gate ∧
    gate.plan? "/users/me" "GET" = some plan ∧
    (gate.check plan ⟨"/users/me", "GET", [], [], none, []⟩).1 = .error rejection ∧
    rejection.errors.map FieldError.field = ["id"] ∧
    ∀ e ∈ rejection.errors, ¬ (e.location = some .path ∧ e.defect = .missing) := by
  have hrejected : ∃ (gate : Gate Checker) (plan : Plan) (declaration : Declaration),
      prepare (addressed "/users/\x7bid\x7d" "id" (some "object")) .default = .ok gate ∧
      gate.plan? "/users/me" "GET" = some plan ∧
      (Description.declarationsFor plan.route plan.verb
        (addressed "/users/\x7bid\x7d" "id" (some "object")).paths).getLast? = some declaration ∧
      declaration.template = "/users/\x7bid\x7d" ∧
      declaration.operation.parameters.getD [] =
        [⟨some "id", some "path", some "object", none, none, none, none⟩] ∧
      (gate.check plan ⟨"/users/me", "GET", [], [], none, []⟩).1 =
        .error ⟨[⟨"id", .invalid "should be an object", some .path⟩]⟩ :=
    ⟨_, _, _, rfl, rfl, rfl, rfl, rfl, rfl⟩
  obtain ⟨gate, plan, declaration, hprepare, hplan, hlast, hkey, hparameters, hcheck⟩ := hrejected
  refine ⟨gate, plan, _, hprepare, hplan, hcheck, by decide, ?_⟩
  have hname : Route.IsPlaceholderName "id" := by decide
  refine lacks_no_path_parameter hprepare ?_ hlast ?_ rfl hcheck
  · exact hplan
  · intro parameter hparameter _ name hparameterName
    rw [hparameters, List.mem_singleton] at hparameter
    subst hparameter
    obtain rfl : "id" = name := Option.some.inj hparameterName
    exact ⟨hname, hkey ▸ Route.hasWholePlaceholder_of_mem hname (by decide)⟩

/-- A request is planned for an operation and lacks its only path parameter, although the path key has a
placeholder for the parameter in its text. -/
def Lacks (key name path : String) : Prop :=
  Route.IsPlaceholderName name ∧ '/' ∉ name.toList ∧
    (Route.Segment.parameter name).braced <:+: key.toList ∧
    ∃ (gate : Gate Checker) (plan : Plan),
      prepare (addressed key name none) .default = .ok gate ∧
      gate.plan? path "GET" = some plan ∧ plan.route = Route.ofBraces key ∧
      (gate.check plan ⟨path, "GET", [], [], none, []⟩).1 =
        .error ⟨[⟨name, .missing, some .path⟩]⟩

/-- Parameters are missing when something stands behind their placeholders, or before them. -/
theorem lacks_path_parameter :
    Lacks "/reports/\x7bid\x7d.json" "id" "/reports/7.json" ∧ Lacks "/x\x7bid\x7d" "id" "/x:id" := by
  have hname : Route.IsPlaceholderName "id" := by decide
  have hbehind : (Route.Segment.parameter "id").braced <:+: "/reports/\x7bid\x7d.json".toList :=
    ⟨"/reports/".toList, ".json".toList, by decide⟩
  have hbefore : (Route.Segment.parameter "id").braced <:+: "/x\x7bid\x7d".toList :=
    ⟨"/x".toList, [], by decide⟩
  constructor
  · exact ⟨hname, by decide, hbehind, _, _, rfl, rfl, rfl, rfl⟩
  · exact ⟨hname, by decide, hbefore, _, _, rfl, rfl, rfl, rfl⟩

end Gate
end RequestGate
