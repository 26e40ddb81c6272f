import RequestGate.Proofs.Admission
import RequestGate.Proofs.Binding
import RequestGate.Proofs.Faithfulness
import RequestGate.Proofs.Vetting

/-!
# Bound controllers are reached through their rules

Two routers look at every request: the gate resolves its path in lower case to the greatest matching
route and plans the rules of that route, while the server takes the path as it was sent and prefers
literals.  A controller is protected when its request was planned with the rules of its own operation.

By design the routers lead a request to different operations in three cases.  A `HEAD` request may be
answered by a `GET` controller.  A path key that is not plain may have a route that does not fit.  The
gate may try another path key first, which the server cannot take because of letter case, a slash at
the end or a missing controller.

Two defects of the gate's routes add a case each.  Routes are ordered by their whole texts, so a route
with a parameter may be tried before one with a literal in its place, when the names of parameters in
front sort that way.  A literal with letters in title case fits no path, and no warning is given.

Main results:

- Theorem `Http.not_lt_of_seenAlike`: the gate tries no path key first that the server sees alike and
  that has the same names in front.
- Theorem `Http.reply_of_invokes`: the reply to a request is the answer of the controller it invokes.
- Theorem `Http.isProtected_iff`: an invoked controller is protected unless the request is diverted, by
  design or by one of the defects.
- Theorem `Http.bypassed`: each of the cases has a request that gets past the rules.
-/

namespace RequestGate

/-- A path key is plain when it is written with plain segments. -/
def Route.IsPlain (template : String) : Prop :=
  ∃ key : Route.PlainKey, key.text = template

/-- Lower case changes a literal of a path key, so that no path fits the key, and there is no warning:
no character of its literals is a capital. -/
def Route.ChangesUnwarned (template : String) : Prop :=
  hasUpperLiteral (ofBraces template) = false ∧
    ∃ text, .literal text ∈ templateSegments (ofBraces template) ∧ Case.lower text ≠ text

/-- The gate considers a path key for a path: its route fits the path in lower case. -/
def Description.Considers (description : Description) (path key : String) : Prop :=
  key ∈ description.paths.names ∧
    Route.fits (Route.templateSegments (Route.ofBraces key)) (Route.segments (Case.lower path)) = true

namespace Http

open Pieces Route

/-! ## One path, two routers -/

/-- A path key that the gate considers for a path is seen by the server like a template is. -/
structure SeenAlike (bindings : List Binding) (path template key : String) : Prop where
  template_isPlain : Route.IsPlain template
  isPlain : Route.IsPlain key
  isBound : ∃ binding ∈ bindings, binding.template = key
  /-- The letter case of literals is that of the path as it was sent. -/
  fits_as_sent : fits (templateSegments (ofBraces key)) (segments path) = true
  same_ending : key.toList.getLast? = some '/' ↔ template.toList.getLast? = some '/'

/-- The parts that plain segments take are nonempty and have no slashes. -/
theorem isPart_of_takes {segments : List Segment} {parts : List (List Char)}
    (htakes : List.Forall₂ Segment.Takes segments parts)
    (hplain : ∀ segment ∈ segments, segment.IsPlain) :
    ∀ part ∈ parts, part ≠ [] ∧ '/' ∉ part := by
  induction htakes with
  | nil => exact fun _ hmem => absurd hmem List.not_mem_nil
  | cons htake _ ih =>
    rw [List.forall_mem_cons] at hplain ⊢
    exact ⟨htake.isPart hplain.1, ih hplain.2⟩

/-- A path that the pattern of a plain key matches is written with parts that its segments take. -/
theorem exists_parts_of_isMatch {key : PlainKey} {path : String}
    (h : key.pattern.isMatch path.toList = true) :
    ∃ parts, path.toList = slashed parts ++ ending key.slash ∧
      List.Forall₂ Segment.Takes key.segments parts ∧
      (∀ part ∈ parts, part ≠ [] ∧ '/' ∉ part) ∧ (parts ≠ [] ∨ key.slash = true) := by
  obtain ⟨parts, hpath, htakes⟩ := PathPattern.isMatch_pattern_iff.1 h
  refine ⟨parts, hpath, htakes, isPart_of_takes htakes key.isPlain, ?_⟩
  rcases key.starts with hne | hslash
  · left
    rintro rfl
    exact hne (List.forall₂_nil_right_iff.1 htakes)
  · exact Or.inr hslash

/-- The route of a plain key fits the paths in lower case that its pattern matches. -/
theorem fits_of_isMatch {key : PlainKey} {path : String}
    (h : key.pattern.isMatch path.toList = true) :
    fits (templateSegments key.route) (segments (Case.lower path)) = true := by
  obtain ⟨parts, hpath, htakes, hparts, hstarts⟩ := exists_parts_of_isMatch h
  have hsent := (PlainKey.fits_iff hpath hstarts hparts).2 htakes
  rw [PlainKey.templateSegments_route] at hsent ⊢
  exact fits_lower (fun _ => PlainKey.isLower_of_mem_readSegments) hsent

/-- The names of two keys agree as those of their segments do, where one of the keys has a literal
first. -/
theorem namesAgree_of_beats {first second : PlainKey} (h : Beats first.segments second.segments)
    (hnames : NamesAgree (templateSegments first.route) (templateSegments second.route)) :
    NamesAgree first.segments second.segments := by
  have hread : ∀ key : PlainKey, key.segments ≠ [] → templateSegments key.route = key.segments := by
    intro key hne
    rw [PlainKey.templateSegments_route]
    exact if_neg hne
  have hne : first.segments ≠ [] ∧ second.segments ≠ [] := by
    generalize first.segments = as at h
    generalize second.segments = bs at h
    cases h <;> exact ⟨List.cons_ne_nil _ _, List.cons_ne_nil _ _⟩
  rwa [hread first hne.1, hread second hne.2] at hnames

variable {description : Description} {compiled : Compiled} {registry : Registry} {router : Router}

/-- A resource for a plain key has the pattern of the key. -/
theorem pattern_of_mem {bindings : List Binding} (hrouter : router.IsServing registry bindings)
    {pattern : PathPattern} {resource : Resource} {key : PlainKey}
    (hmem : (pattern, resource) ∈ router.resources) (htemplate : resource.template = key.text) :
    pattern = key.pattern := by
  have hread := hrouter.has_pattern _ hmem
  rw [htemplate] at hread
  exact PathPattern.ofTemplate?_text hread

/-- A path key that the gate considers and that is seen alike, with the same names in front, is the
template of the resource which the server takes, unless the route of that template is greater. -/
theorem eq_or_route_lt_of_seenAlike {path template key : String} {pattern : PathPattern}
    {resource : Resource} (hrouter : router.IsServing registry compiled.bindings)
    (hmem : (pattern, resource) ∈ router.resources) (hmatch : pattern.isMatch path.toList = true)
    (hbest : ∀ other ∈ router.resources, other.1.isMatch path.toList = true →
      other.1.isPreferred pattern = false)
    (htemplate : resource.template = template)
    (hseen : SeenAlike compiled.bindings path template key)
    (hnames : NamesAgree (templateSegments (ofBraces template)) (templateSegments (ofBraces key))) :
    key = template ∨ ofBraces key < ofBraces template := by
  obtain ⟨⟨first, rfl⟩, ⟨second, rfl⟩, ⟨binding, hbinding, hbound⟩, hsent, hending⟩ := hseen
  -- The server's pattern gives the parts of the path; the other key takes the same parts.
  obtain rfl := pattern_of_mem hrouter hmem htemplate
  obtain ⟨parts, hpath, htakes, hparts, hstarts⟩ := exists_parts_of_isMatch hmatch
  have hslash : second.slash = first.slash := by
    rw [Bool.eq_iff_iff, ← PlainKey.getLast?_text_eq_iff, ← PlainKey.getLast?_text_eq_iff]
    exact hending
  have hother : List.Forall₂ Segment.Takes second.segments parts := by
    rw [← PlainKey.fits_iff hpath hstarts hparts, ← PlainKey.ofBraces_text]
    exact hsent
  -- So the server has a resource for the other key, and does not prefer it.
  obtain ⟨otherResource, hresource, hsame⟩ := hrouter.serves.has_resource binding hbinding
  obtain ⟨⟨otherPattern, _⟩, hentry, rfl⟩ := List.mem_map.1 hresource
  obtain rfl := pattern_of_mem hrouter hentry (hsame.trans hbound)
  have hotherMatch : second.pattern.isMatch path.toList = true := by
    rw [PathPattern.isMatch_pattern_iff, hslash]
    exact ⟨parts, hpath, hother⟩
  rcases beats_or_beats htakes hother with hbeats | hbeats | hanonymous
  · right
    rw [PlainKey.ofBraces_text, PlainKey.ofBraces_text]
    rw [PlainKey.ofBraces_text, PlainKey.ofBraces_text] at hnames
    exact PlainKey.route_lt_route hbeats (namesAgree_of_beats hbeats hnames)
  · have hworse : second.pattern.isPreferred first.pattern = false :=
      hbest _ hentry hotherMatch
    rw [PathPattern.isPreferred_pattern_of_beats hbeats] at hworse
    exact absurd hworse Bool.noConfusion
  · left
    have hsamePattern : second.pattern = first.pattern :=
      PathPattern.pattern_eq_of_anonymous_eq hanonymous.symm hslash
    have heq := (Prod.mk.inj (hrouter.pattern_unique hentry hmem hsamePattern)).2
    rw [← htemplate, ← heq]
    exact (hsame.trans hbound).symm

/-- The gate tries no path key before the one that the server takes, if the server sees it alike and
the names in front are the same. -/
theorem not_lt_of_seenAlike (hrouter : router.IsServing registry compiled.bindings)
    {method path template key : String} {verb : Verb}
    (h : router.operation? method path = some (verb, template))
    (hseen : SeenAlike compiled.bindings path template key)
    (hnames : NamesAgree (templateSegments (ofBraces template)) (templateSegments (ofBraces key))) :
    ¬ ofBraces template < ofBraces key := by
  obtain ⟨resource, hresource, _, htemplate⟩ := Router.operation?_eq_some_iff.1 h
  obtain ⟨pattern, hmem, hmatch, hbest⟩ := Router.resource?_eq_some hresource
  intro hlt
  rcases eq_or_route_lt_of_seenAlike hrouter hmem hmatch hbest htemplate hseen hnames with rfl | hgt
  · exact String.lt_irrefl _ hlt
  · exact String.lt_irrefl _ (String.lt_trans hlt hgt)

/-- The route of a plain path key fits the paths in lower case for which the server takes the key. -/
theorem fits_of_operation? (hrouter : router.IsServing registry compiled.bindings)
    {method path template : String} {verb : Verb} (hplain : Route.IsPlain template)
    (h : router.operation? method path = some (verb, template)) :
    fits (templateSegments (ofBraces template)) (segments (Case.lower path)) = true := by
  obtain ⟨resource, hresource, _, htemplate⟩ := Router.operation?_eq_some_iff.1 h
  obtain ⟨pattern, hmem, hmatch, _⟩ := Router.resource?_eq_some hresource
  obtain ⟨key, rfl⟩ := hplain
  rw [pattern_of_mem hrouter hmem htemplate] at hmatch
  rw [PlainKey.ofBraces_text]
  exact fits_of_isMatch hmatch

/-- The route of a path key that the server takes is one of those that the gate knows. -/
theorem mem_routes_of_operation? (hcompile : description.compile = .ok compiled)
    (hrouter : router.IsServing registry compiled.bindings) {method path template : String}
    {verb : Verb} (h : router.operation? method path = some (verb, template)) :
    ofBraces template ∈ compiled.routes.templates := by
  obtain ⟨binding, hbinding, _, hsame, _⟩ := Router.exists_binding_of_operation? hrouter h
  obtain ⟨_, item, _, hitem, _⟩ :=
    Description.mem_bindings.1 ((Description.compile_cases hcompile).2.2 ▸ hbinding)
  rw [hsame] at hitem
  exact (Description.mem_routes_compile hcompile).2 ⟨template, List.mem_map_of_mem hitem, rfl⟩

/-- The gate resolves a path to the route of a path key when that route fits and no path key that the
gate considers has a greater route. -/
theorem exists_resolve?_compile_iff (hcompile : description.compile = .ok compiled)
    {path route : String} (hroute : route ∈ compiled.routes.templates) :
    (∃ captures, compiled.routes.resolve? path = some ⟨route, captures⟩) ↔
      fits (templateSegments route) (segments (Case.lower path)) = true ∧
        ∀ key, description.Considers path key → ¬ route < ofBraces key := by
  rw [Index.exists_resolve?_eq_some_iff hroute]
  refine and_congr_right fun _ => ⟨?_, ?_⟩
  · rintro hgreatest key ⟨hkey, hfits⟩
    exact hgreatest _ ((Description.mem_routes_compile hcompile).2 ⟨key, hkey, rfl⟩) hfits
  · intro hgreatest other hother hfits
    obtain ⟨key, hkey, rfl⟩ := (Description.mem_routes_compile hcompile).1 hother
    exact hgreatest key ⟨hkey, hfits⟩

/-! ## Invoked controllers -/

variable {gate : Gate Checker} {limit : Nat} {request : Request} {verb : Verb} {template : String}

/-- A server with a gate in front of a router invokes the controller that is bound for an operation:
the request is admitted, and the router leads it to the operation. -/
def Invokes (gate : Gate Checker) (limit : Nat) (router : Router) (request : Request) (verb : Verb)
    (template : String) : Prop :=
  (admission gate limit request).1.isAdmitted = true ∧
    router.operation? request.method request.target.path = some (verb, template)

/-- An operation has no rules, or a request was planned with its rules and every place of it is
valid. -/
def IsProtected (gate : Gate Checker) (limit : Nat) (request : Request) (verb : Verb)
    (template : String) : Prop :=
  gate.compiled.rules.lookup? (ofBraces template) verb = none ∨
    ∃ plan body, gate.plan? request.target.path request.method = some plan ∧
      plan.route = ofBraces template ∧ plan.verb = verb ∧ BodyIsRead plan limit request body ∧
      ∀ entry ∈ plan.rules.nonempty,
        gate.validator.validate entry.2 (plan.bagAt (request.forGate body) entry.1) = .ok ()

/-- An admitted request that is led to a controller invokes it for an operation. -/
theorem exists_invokes {controller : Controller}
    (hadmitted : (admission gate limit request).1.isAdmitted = true)
    (hcontroller :
      router.destination request.method request.target.path = .controller controller) :
    ∃ verb template, Invokes gate limit router request verb template := by
  obtain ⟨verb, template, hoperation⟩ := Router.exists_operation?_of_destination hcontroller
  exact ⟨verb, template, hadmitted, hoperation⟩

/-- The reply to a request that invokes a controller is the answer of that controller. -/
theorem reply_of_invokes (hrouter : router.IsServing registry gate.compiled.bindings)
    (h : Invokes gate limit router request verb template) :
    ∃ binding ∈ gate.compiled.bindings, binding.verb = verb ∧ binding.template = template ∧
      ∃ controller, Fields.get? binding.controller registry = some controller ∧
        (Server.reply ⟨gate, limit, router.answer⟩ request).1 =
          (Server.serviceReply controller request).sentFor request := by
  obtain ⟨binding, hbinding, hverb, htemplate, controller, hcontroller, hanswer⟩ :=
    Router.answer_of_operation? hrouter h.2
  refine ⟨binding, hbinding, hverb, htemplate, controller, hcontroller, ?_⟩
  rw [serves_iff.2 h.1 router.answer]
  unfold Server.serviceReply
  rw [hanswer]

/-- What leads a request past the rules of an operation to its controller by design. -/
inductive IsDiverted (description : Description) (bindings : List Binding) (request : Request)
    (verb : Verb) (template : String) : Prop where
  /-- A `HEAD` request is answered by the controller of another method. -/
  | answeredAsHead (hmethod : request.method = "HEAD") (hverb : verb ≠ .head)
  /-- The path key is not plain, and its route does not fit the path in lower case. -/
  | misfit (hplain : ¬ Route.IsPlain template) (hwarned : ¬ Route.ChangesUnwarned template)
    (hfits : fits (templateSegments (ofBraces template))
      (segments (Case.lower request.target.path)) = false)
  /-- The gate tries a path key first, and the server does not see that key alike. -/
  | preceded (key : String) (hconsiders : description.Considers request.target.path key)
    (hfirst : ofBraces template < ofBraces key)
    (hunlike : ¬ SeenAlike bindings request.target.path template key)

/-- What leads a request past the rules of an operation to its controller against the design, by which
a literal is tried before a parameter and a literal that fits no path is warned about. -/
inductive IsMisled (description : Description) (bindings : List Binding) (request : Request)
    (template : String) : Prop where
  /-- The path key fits no path, and there was no warning. -/
  | unwarned (hchanges : Route.ChangesUnwarned template)
    (hfits : fits (templateSegments (ofBraces template))
      (segments (Case.lower request.target.path)) = false)
  /-- The gate tries a path key first that the server sees alike: a name of a parameter in front sorts
  the other way. -/
  | misordered (key : String) (hconsiders : description.Considers request.target.path key)
    (hfirst : ofBraces template < ofBraces key)
    (hseen : SeenAlike bindings request.target.path template key)
    (hnames : ¬ NamesAgree (templateSegments (ofBraces template)) (templateSegments (ofBraces key)))

/-- A request that is neither diverted nor misled is planned with the rules of the operation that it
leads to. -/
theorem plan?_of_not_isDiverted_of_not_isMisled (hcompile : description.compile = .ok gate.compiled)
    (hrouter : router.IsServing registry gate.compiled.bindings)
    (hoperation : router.operation? request.method request.target.path = some (verb, template))
    {rules : LocationRules} (hrules : gate.compiled.rules.lookup? (ofBraces template) verb = some rules)
    (hstays : ¬ IsDiverted description gate.compiled.bindings request verb template)
    (hled : ¬ IsMisled description gate.compiled.bindings request template) :
    ∃ captures, gate.plan? request.target.path request.method =
      some ⟨ofBraces template, verb, rules, captures⟩ := by
  have hfits : fits (templateSegments (ofBraces template))
      (segments (Case.lower request.target.path)) = true := by
    by_contra hunfit
    have hfalse := Bool.eq_false_iff.2 hunfit
    by_cases hchanges : Route.ChangesUnwarned template
    · exact hled (.unwarned hchanges hfalse)
    · refine hstays (.misfit (fun hplain => ?_) hchanges hfalse)
      exact hunfit (fits_of_operation? hrouter hplain hoperation)
  have hgreatest : ∀ key, description.Considers request.target.path key →
      ¬ ofBraces template < ofBraces key := by
    intro key hconsiders hfirst
    refine hstays (.preceded key hconsiders hfirst fun hseen => ?_)
    refine hled (.misordered key hconsiders hfirst hseen fun hnames => ?_)
    exact not_lt_of_seenAlike hrouter hoperation hseen hnames hfirst
  have hhead : request.method = "HEAD" → verb = .head := by
    intro hmethod
    by_contra hverb
    exact hstays (.answeredAsHead hmethod hverb)
  have hroute := mem_routes_of_operation? hcompile hrouter hoperation
  obtain ⟨captures, hresolve⟩ :=
    (exists_resolve?_compile_iff hcompile hroute).2 ⟨hfits, hgreatest⟩
  obtain ⟨resource, _, hverb, _⟩ := Router.operation?_eq_some_iff.1 hoperation
  exact ⟨captures, Gate.plan?_eq_some_iff.2
    ⟨Resource.ofName?_of_answeringVerb? hverb hhead, hresolve, hrules⟩⟩

/-- The route of a plan fits the path in lower case, and the gate considers no path key with a greater
one. -/
theorem fits_and_greatest_of_plan? (hcompile : description.compile = .ok gate.compiled) {plan : Plan}
    (hplan : gate.plan? request.target.path request.method = some plan)
    (hroute : plan.route = ofBraces template) :
    fits (templateSegments (ofBraces template)) (segments (Case.lower request.target.path)) = true ∧
      ∀ key, description.Considers request.target.path key → ¬ ofBraces template < ofBraces key := by
  obtain ⟨_, hresolve, _⟩ := Gate.plan?_eq_some_iff.1 hplan
  have hindexed := (Index.fits_of_resolve?_eq_some hresolve).1
  rw [← hroute]
  exact (exists_resolve?_compile_iff hcompile hindexed).1 ⟨plan.captures, hresolve⟩

/-- A request that is planned with the rules of an operation is not diverted from them. -/
theorem not_isDiverted_of_plan? (hcompile : description.compile = .ok gate.compiled) {plan : Plan}
    (hplan : gate.plan? request.target.path request.method = some plan)
    (hroute : plan.route = ofBraces template) :
    ¬ IsDiverted description gate.compiled.bindings request plan.verb template := by
  obtain ⟨hverb, _, _⟩ := Gate.plan?_eq_some_iff.1 hplan
  obtain ⟨hfits, hgreatest⟩ := fits_and_greatest_of_plan? hcompile hplan hroute
  intro hdiverted
  cases hdiverted with
  | answeredAsHead hmethod hother =>
    rw [hmethod, show Verb.ofName? "HEAD" = some .head by decide] at hverb
    exact hother (Option.some.inj hverb).symm
  | misfit _ _ hunfit =>
    rw [hfits] at hunfit
    exact Bool.noConfusion hunfit
  | preceded key hconsiders hfirst _ => exact hgreatest key hconsiders hfirst

/-- A request that is planned with the rules of an operation is not misled past them. -/
theorem not_isMisled_of_plan? (hcompile : description.compile = .ok gate.compiled) {plan : Plan}
    (hplan : gate.plan? request.target.path request.method = some plan)
    (hroute : plan.route = ofBraces template) :
    ¬ IsMisled description gate.compiled.bindings request template := by
  obtain ⟨hfits, hgreatest⟩ := fits_and_greatest_of_plan? hcompile hplan hroute
  intro hmisled
  cases hmisled with
  | unwarned _ hunfit =>
    rw [hfits] at hunfit
    exact Bool.noConfusion hunfit
  | misordered key hconsiders hfirst _ _ => exact hgreatest key hconsiders hfirst

/-- A bound controller that is invoked is protected exactly when its operation has no rules or the
request is neither diverted nor misled. -/
theorem isProtected_iff {settings : ValidationSettings}
    (hgate : Gate.prepare description settings = .ok gate)
    (hrouter : Router.bind registry gate.compiled.bindings = .ok router)
    (hinvokes : Invokes gate limit router request verb template) :
    IsProtected gate limit request verb template ↔
      gate.compiled.rules.lookup? (ofBraces template) verb = none ∨
        ¬ IsDiverted description gate.compiled.bindings request verb template ∧
          ¬ IsMisled description gate.compiled.bindings request template := by
  have hcompile := Gate.compile_of_prepare hgate
  constructor
  · rintro (hnone | ⟨plan, body, hplan, hroute, rfl, _⟩)
    · exact Or.inl hnone
    · exact Or.inr ⟨not_isDiverted_of_plan? hcompile hplan hroute,
        not_isMisled_of_plan? hcompile hplan hroute⟩
  · rintro (hnone | ⟨hstays, hled⟩)
    · exact Or.inl hnone
    cases hrules : gate.compiled.rules.lookup? (ofBraces template) verb with
    | none => exact Or.inl hrules
    | some rules =>
      right
      obtain ⟨hadmitted, hoperation⟩ := hinvokes
      obtain ⟨captures, hplan⟩ := plan?_of_not_isDiverted_of_not_isMisled hcompile
        (Router.bind_isServing hrouter) hoperation hrules hstays hled
      obtain ⟨body, hbody, hcheck⟩ := check_of_isAdmitted hplan hadmitted
      exact ⟨_, body, hplan, rfl, rfl, hbody, Gate.check_eq_ok_iff.1 hcheck⟩

/-! ## Requests on both sides -/

/-- A description with a `GET` operation for every path key. -/
def getting (keys : List (String × Operation)) : Description where
  swagger := none
  openapi := none
  paths := keys.map fun (key, operation) => (key, ⟨fun
    | .get => some operation
    | _ => none⟩)

/-- An operation with a controller and a required query parameter. -/
def guarded : Operation :=
  ⟨none, some [⟨some "token", some "query", none, some true, none, none, none⟩], some "show"⟩

/-- An operation with a controller and without parameters. -/
def unguarded : Operation :=
  ⟨none, none, some "show"⟩

/-- The registry of the controller of these operations. -/
def showing : Registry :=
  [("show", fun _ => some (.empty 200))]

/-- A request with the parameter for a path that two path keys fit. -/
def tokenRequest : Request :=
  ⟨"GET", ⟨none, "", "/users/me", some "token=1"⟩, [], []⟩

/-- Two guarded path keys that fit one path. -/
def overlapping : Description :=
  getting [("/users/\x7bid\x7d", guarded), ("/users/me", guarded)]

theorem overlapping_invokes : ∃ gate router, Gate.prepare overlapping .default = .ok gate ∧
    Router.bind showing gate.compiled.bindings = .ok router ∧
      Invokes gate 0 router tokenRequest .get "/users/me" := by
  refine ⟨_, _, rfl, rfl, ?_, rfl⟩
  have hquery : Bag.ofQuery tokenRequest.target.query = [("token", .string "1")] := by
    have hpairs : Urlencoded.pairs (Utf8.encode "token=1") =
        [(Utf8.decodeLossy (Utf8.encode "token"), Utf8.decodeLossy (Utf8.encode "1"))] := rfl
    show Bag.ofPairs (Urlencoded.pairs (Utf8.encode "token=1")) = _
    rw [hpairs]
    unfold Utf8.decodeLossy
    rw [Utf8.decodeParts_of_ascii rfl, Utf8.decodeParts_of_ascii rfl]
    rfl
  have hread : ∀ plan : Plan, plan.needsBody = false → BodyIsRead plan 0 tokenRequest [] :=
    fun plan hneeds hbody => absurd (hneeds.symm.trans hbody) Bool.false_ne_true
  rw [admission_eq_validate rfl (hread _ rfl)]
  unfold Request.forGate
  rw [hquery]
  rfl

/-- Both routers take the literal, so the hypotheses are satisfied and the request is neither diverted
nor misled. -/
theorem overlapping_isProtected : ∃ gate router, Gate.prepare overlapping .default = .ok gate ∧
    Router.bind showing gate.compiled.bindings = .ok router ∧
      Invokes gate 0 router tokenRequest .get "/users/me" ∧
      IsProtected gate 0 tokenRequest .get "/users/me" := by
  obtain ⟨gate, router, hgate, hrouter, hinvokes⟩ := overlapping_invokes
  have hgreatest : ∀ key, overlapping.Considers tokenRequest.target.path key →
      ¬ ofBraces "/users/me" < ofBraces key := by
    intro key hconsiders hfirst
    rcases List.mem_cons.1 hconsiders.1 with rfl | hkey
    · exact absurd hfirst (by decide)
    · rw [List.mem_singleton.1 hkey] at hfirst
      exact String.lt_irrefl _ hfirst
  refine ⟨gate, router, hgate, hrouter, hinvokes,
    (isProtected_iff hgate hrouter hinvokes).2 (Or.inr ⟨?_, ?_⟩)⟩
  · intro hdiverted
    cases hdiverted with
    | answeredAsHead hmethod _ => exact absurd hmethod (by decide)
    | misfit _ _ hunfit => exact absurd hunfit (by decide)
    | preceded key hconsiders hfirst _ => exact hgreatest key hconsiders hfirst
  · intro hmisled
    cases hmisled with
    | unwarned _ hunfit => exact absurd hunfit (by decide)
    | misordered key hconsiders hfirst _ _ => exact hgreatest key hconsiders hfirst

/-- A path key has literals that the gate can take and tries before parameters: none has a character in
upper case, and each starts above the colon. -/
def respectsLimits (key : String) : Bool :=
  (templateSegments (ofBraces key)).all fun
    | .literal text => !text.toList.any Case.isUpper && text.toList.head?.all (':' < ·)
    | .parameter _ => true

/-- A request for a target invokes a controller past its rules, although the literals of all path keys
respect the limits. -/
def IsBypassed (description : Description) (method target : String) : Prop :=
  description.paths.names.all respectsLimits = true ∧ ∃ gate router request verb template,
    Gate.prepare description .default = .ok gate ∧
    Router.bind showing gate.compiled.bindings = .ok router ∧
    Request.ofParts? method target [] [] = some request ∧
    Invokes gate 0 router request verb template ∧ ¬ IsProtected gate 0 request verb template

/-- An operation with rules is not protected from a request that is planned as another one. -/
theorem not_isProtected_of_plan?
    (hrules : (gate.compiled.rules.lookup? (ofBraces template) verb).isSome = true)
    (hplan : (gate.plan? request.target.path request.method).map (fun plan =>
      (plan.route, plan.verb)) ≠ some (ofBraces template, verb)) :
    ¬ IsProtected gate limit request verb template := by
  rintro (hnone | ⟨plan, body, hsome, hroute, hverb, _⟩)
  · rw [hnone] at hrules
    exact Bool.noConfusion hrules
  · rw [hsome, Option.map_some, hroute, hverb] at hplan
    exact hplan rfl

/-- Requests get past the rules by design: by `HEAD`, by letter case, by a path key without a controller,
by a slash at the end, and by path keys that are not plain, with a parameter for the rest of the path or
a brace for itself.  Each of the two defects leads a request past them as well: the fifth, for names of
parameters that sort the other way, and the last, for a letter in title case. -/
theorem bypassed :
    IsBypassed (getting [("/users", guarded)]) "HEAD" "/users" ∧
    IsBypassed (getting [("/users/\x7bid\x7d", guarded), ("/users/me", unguarded)]) "GET" "/users/ME" ∧
    IsBypassed (getting [("/users/\x7bid\x7d", guarded), ("/users/me", ⟨none, none, none⟩)])
      "GET" "/users/me" ∧
    IsBypassed (getting [("/users", guarded), ("/users/", unguarded)]) "GET" "/users" ∧
    IsBypassed (getting [("/\x7bid\x7d/pets", guarded), ("/\x7bname\x7d/\x7bpet\x7d", unguarded)])
      "GET" "/ann/pets" ∧
    IsBypassed (getting [("/files/\x7b*path\x7d", guarded)]) "GET" "/files/a/b" ∧
    IsBypassed (getting [("/a\x7b\x7bb", guarded)]) "GET" "/a\x7bb" ∧
    IsBypassed (getting [("/\u01C5", guarded)]) "GET" "/\u01C5" := by
  refine ⟨?_, ?_, ?_, ?_, ?_, ?_, ?_, ?_⟩ <;>
    exact ⟨rfl, _, _, _, .get, _, rfl, rfl, rfl, ⟨rfl, rfl⟩,
      not_isProtected_of_plan? rfl (by decide)⟩

end Http
end RequestGate
