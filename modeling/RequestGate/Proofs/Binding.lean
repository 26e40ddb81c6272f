import RequestGate.Http.Router
import RequestGate.Proofs.Fallible
import RequestGate.Proofs.Fields
import RequestGate.Proofs.PathPattern

/-!
# Bound routers

A router that is bound without an error serves exactly its bindings: every binding has a resource with
the pattern of its template, every controller of a resource comes from a binding of its template, and
no two resources have the same pattern.  For a path it takes a resource to which no other matching one
is preferred.

Main results:

- Theorem `Http.Router.bind_isServing`: what binding gives, when it succeeds.
- Theorem `Http.Router.resource?_eq_some`: the resource of a path is one that no other is preferred to.
- Theorem `Http.Router.answer_of_operation?`: a request is answered by the controller that is bound for
  the operation which it leads to.
-/

namespace RequestGate

namespace Http

namespace Resource

/-- The method whose controller answers requests with a method. -/
def answeringVerb? (resource : Resource) (method : String) : Option Verb :=
  (Verb.all.find? (·.upperName = method)).bind fun verb =>
    if (resource.handler? verb).isSome then some verb
    else if verb = .head ∧ (resource.handler? .get).isSome then some .get
    else none

/-- A resource answers with the controller of the method that it answers by. -/
theorem answering?_eq (resource : Resource) (method : String) :
    resource.answering? method = (resource.answeringVerb? method).bind resource.handler? := by
  unfold answering? answeringVerb?
  cases Verb.all.find? (·.upperName = method) with
  | none => rfl
  | some verb =>
    simp only [Option.bind_eq_bind, Option.bind_some]
    by_cases hhead : verb = .head
    · subst hhead
      cases hcontroller : resource.handler? .head with
      | some controller => simp [hcontroller]
      | none =>
        cases hget : resource.handler? .get <;> simp [hget]
    · cases hcontroller : resource.handler? verb <;> simp [hhead, hcontroller]

/-- A resource that answers by a method has a controller for it. -/
theorem exists_handler_of_answeringVerb? {resource : Resource} {method : String} {verb : Verb}
    (h : resource.answeringVerb? method = some verb) :
    ∃ controller, resource.handler? verb = some controller := by
  rw [← Option.isSome_iff_exists]
  obtain ⟨sent, _, hchosen⟩ := Option.bind_eq_some_iff.1 h
  split at hchosen
  · rename_i hhandler
    cases hchosen
    exact hhandler
  · split at hchosen
    · rename_i hget
      cases hchosen
      exact hget.2
    · cases hchosen

/-- The method of a controller is that of the request, apart from `HEAD` requests that are answered by
the `GET` controller. -/
theorem ofName?_of_answeringVerb? {resource : Resource} {method : String} {verb : Verb}
    (h : resource.answeringVerb? method = some verb) (hhead : method = "HEAD" → verb = .head) :
    Verb.ofName? method = some verb := by
  have hupper : ∀ verb : Verb, Verb.ofName? verb.upperName = some verb := by
    intro verb
    cases verb <;> decide
  obtain ⟨sent, hsent, hverb⟩ := Option.bind_eq_some_iff.1 h
  have hmethod : sent.upperName = method := by
    simpa using List.find?_some hsent
  split at hverb
  · cases hverb
    rw [← hmethod, hupper]
  · split at hverb
    · rename_i hget
      cases hverb
      obtain ⟨rfl, _⟩ := hget
      exact absurd (hhead hmethod.symm) (by decide)
    · cases hverb

end Resource

namespace Router

variable {registry : Registry} {bindings : List Binding}

/-! ## Resources -/

/-- The resources of bindings: each binding has one, and each controller has a binding. -/
structure Serves (registry : Registry) (bindings : List Binding) (resources : List Resource) :
    Prop where
  has_resource : ∀ binding ∈ bindings, ∃ resource ∈ resources,
    resource.template = binding.template
  has_binding : ∀ resource ∈ resources, ∀ handler ∈ resource.handlers, ∃ binding ∈ bindings,
    binding.template = resource.template ∧ binding.verb = handler.1 ∧
      Fields.get? binding.controller registry = some handler.2

/-- What one more binding does: it makes a resource, or adds a controller to the one of its shape. -/
theorem withBinding_cases {resources next : Fields Resource} {binding : Binding}
    (h : withBinding registry resources binding = .ok next) :
    ∃ controller, Fields.get? binding.controller registry = some controller ∧
      (next = resources ++ [(shape binding.route, ⟨binding.template, [(binding.verb, controller)]⟩)] ∧
          Fields.get? (shape binding.route) resources = none ∨
        ∃ resource, Fields.get? (shape binding.route) resources = some resource ∧
          resource.template = binding.template ∧
          next = resources.erase (shape binding.route) ++ [(shape binding.route,
            { resource with handlers := resource.handlers ++ [(binding.verb, controller)] })]) := by
  unfold withBinding at h
  cases hcontroller : Fields.get? binding.controller registry with
  | none =>
    rw [hcontroller] at h
    cases h
  | some controller =>
    refine ⟨controller, rfl, ?_⟩
    simp only [hcontroller] at h
    cases hresource : Fields.get? (shape binding.route) resources with
    | none =>
      simp only [hresource, Except.ok.injEq] at h
      rw [Fields.insert_of_get?_eq_none hresource] at h
      exact Or.inl ⟨h.symm, rfl⟩
    | some resource =>
      simp only [hresource] at h
      split at h
      · cases h
      · rename_i htemplate
        split at h
        · cases h
        · simp only [Except.ok.injEq] at h
          rw [Fields.insert_of_get?_eq_none (Fields.get?_erase_self _ _)] at h
          exact Or.inr ⟨resource, rfl, Decidable.not_not.1 htemplate, h.symm⟩

/-- The bindings done grow and the controllers of a resource stay bound. -/
theorem Serves.mono {resources : List Resource} (h : Serves registry bindings resources)
    (binding : Binding) {resource : Resource} (hmem : resource ∈ resources)
    {handler : Verb × Controller} (hhandler : handler ∈ resource.handlers) :
    ∃ other ∈ bindings ++ [binding], other.template = resource.template ∧
      other.verb = handler.1 ∧ Fields.get? other.controller registry = some handler.2 := by
  obtain ⟨other, hother, hbound⟩ := h.has_binding resource hmem handler hhandler
  exact ⟨other, List.mem_append_left _ hother, hbound⟩

/-- A binding is served by a resource of its own. -/
theorem Serves.withNew {resources : List Resource} (h : Serves registry bindings resources)
    {binding : Binding} {controller : Controller}
    (hcontroller : Fields.get? binding.controller registry = some controller) :
    Serves registry (bindings ++ [binding])
      (resources ++ [⟨binding.template, [(binding.verb, controller)]⟩]) := by
  constructor
  · intro other hother
    rcases List.mem_append.1 hother with hother | hother
    · obtain ⟨resource, hresource, htemplate⟩ := h.has_resource other hother
      exact ⟨resource, List.mem_append_left _ hresource, htemplate⟩
    · obtain rfl := List.mem_singleton.1 hother
      exact ⟨_, List.mem_append_right _ (List.mem_singleton.2 rfl), rfl⟩
  · intro resource hresource handler hhandler
    rcases List.mem_append.1 hresource with hresource | hresource
    · exact h.mono binding hresource hhandler
    · obtain rfl := List.mem_singleton.1 hresource
      obtain rfl := List.mem_singleton.1 hhandler
      exact ⟨binding, List.mem_append_right _ (List.mem_singleton.2 rfl), rfl, rfl, hcontroller⟩

/-- A binding is served by the resource of its template with one more controller. -/
theorem Serves.withHandler {resources : Fields Resource} {key : String} {resource : Resource}
    (h : Serves registry bindings (resources.map Prod.snd)) (hdistinct : resources.Distinct)
    (hresource : Fields.get? key resources = some resource) {binding : Binding}
    {controller : Controller} (htemplate : resource.template = binding.template)
    (hcontroller : Fields.get? binding.controller registry = some controller) :
    Serves registry (bindings ++ [binding])
      ((resources.erase key).map Prod.snd ++
        [{ resource with handlers := resource.handlers ++ [(binding.verb, controller)] }]) := by
  have hmem := (Fields.get?_eq_some_iff_mem hdistinct).1 hresource
  have hold : resource ∈ resources.map Prod.snd := List.mem_map.2 ⟨_, hmem, rfl⟩
  constructor
  · intro other hother
    have hkept : ∃ found ∈ resources.map Prod.snd, found.template = other.template := by
      rcases List.mem_append.1 hother with hother | hother
      · exact h.has_resource other hother
      · obtain rfl := List.mem_singleton.1 hother
        exact ⟨resource, hold, htemplate⟩
    obtain ⟨found, hfound, hsame⟩ := hkept
    obtain ⟨⟨name, _⟩, hentry, rfl⟩ := List.mem_map.1 hfound
    -- A resource is kept, or it is the one that has a controller more.
    by_cases hkey : name = key
    · subst hkey
      have hget := (Fields.get?_eq_some_iff_mem hdistinct).2 hentry
      rw [hresource] at hget
      cases hget
      exact ⟨_, List.mem_append_right _ (List.mem_singleton.2 rfl), hsame⟩
    · have herase : (name, _) ∈ resources.erase key :=
        List.mem_filter.2 ⟨hentry, decide_eq_true hkey⟩
      exact ⟨_, List.mem_append_left _ (List.mem_map.2 ⟨_, herase, rfl⟩), hsame⟩
  · intro found hfound handler hhandler
    rcases List.mem_append.1 hfound with hfound | hfound
    · obtain ⟨entry, hentry, rfl⟩ := List.mem_map.1 hfound
      exact h.mono binding (List.mem_map.2 ⟨entry, (List.mem_filter.1 hentry).1, rfl⟩) hhandler
    · obtain rfl := List.mem_singleton.1 hfound
      rcases List.mem_append.1 hhandler with hhandler | hhandler
      · exact h.mono binding hold hhandler
      · obtain rfl := List.mem_singleton.1 hhandler
        exact ⟨binding, List.mem_append_right _ (List.mem_singleton.2 rfl), htemplate.symm, rfl,
          hcontroller⟩

/-- One more binding is served, and those before still are. -/
theorem Serves.withBinding {resources next : Fields Resource} {binding : Binding}
    (hdistinct : resources.Distinct) (h : Serves registry bindings (resources.map Prod.snd))
    (hnext : Router.withBinding registry resources binding = .ok next) :
    next.Distinct ∧ Serves registry (bindings ++ [binding]) (next.map Prod.snd) := by
  obtain ⟨controller, hcontroller, ⟨rfl, hnone⟩ | ⟨resource, hresource, htemplate, rfl⟩⟩ :=
    withBinding_cases hnext
  · rw [List.map_append, ← Fields.insert_of_get?_eq_none hnone]
    exact ⟨Fields.distinct_insert hdistinct _ _, h.withNew hcontroller⟩
  · rw [List.map_append, ← Fields.insert_of_get?_eq_none (Fields.get?_erase_self _ _)]
    exact ⟨Fields.distinct_insert (Fields.distinct_erase hdistinct _) _ _,
      h.withHandler hdistinct hresource htemplate hcontroller⟩

/-- The resources that bindings make serve them. -/
theorem serves_of_foldlM {resources : Fields Resource}
    (h : bindings.foldlM (withBinding registry) [] = .ok resources) :
    Serves registry bindings (resources.map Prod.snd) := by
  have hrun := Fallible.foldlM_ok_induction
    (motive := fun done (resources : Fields Resource) =>
      resources.Distinct ∧ Serves registry done (resources.map Prod.snd))
    ?_ ?_ h
  · exact hrun.2
  · refine ⟨List.nodup_nil, ?_, ?_⟩
    · exact fun _ hmem => absurd hmem List.not_mem_nil
    · exact fun _ hmem => absurd hmem List.not_mem_nil
  · intro done resources binding next hdone hnext
    exact hdone.2.withBinding hdone.1 hnext

/-! ## Patterns -/

/-- A router has the resources of bindings with the patterns of their templates, each pattern once. -/
structure IsServing (router : Router) (registry : Registry) (bindings : List Binding) : Prop where
  serves : Serves registry bindings (router.resources.map Prod.snd)
  has_pattern : ∀ entry ∈ router.resources,
    PathPattern.ofTemplate? entry.2.template = some entry.1
  pattern_unique : ∀ ⦃entry⦄, entry ∈ router.resources → ∀ ⦃other⦄, other ∈ router.resources →
    entry.1 = other.1 → entry = other

/-- What one more resource does to a router. -/
theorem withResource_cases {router next : Router} {resource : Resource}
    (h : withResource router resource = .ok next) :
    ∃ pattern, PathPattern.ofTemplate? resource.template = some pattern ∧
      (∀ entry ∈ router.resources, entry.1.clashes pattern = false) ∧
      next = ⟨router.resources ++ [(pattern, resource)]⟩ := by
  unfold withResource at h
  split at h
  · cases h
  · rename_i pattern hpattern
    split at h
    · cases h
    · rename_i hclash
      cases h
      refine ⟨pattern, hpattern, ?_, rfl⟩
      simpa using hclash

/-- What binding gives, when it succeeds. -/
theorem bind_isServing {router : Router} (h : bind registry bindings = .ok router) :
    router.IsServing registry bindings := by
  obtain ⟨resources, hresources, hrouter⟩ := Fallible.bind_eq_ok_iff.1 h
  have hrun := Fallible.foldlM_ok_induction
    (motive := fun done (router : Router) => router.resources.map Prod.snd = done ∧
      (∀ entry ∈ router.resources, PathPattern.ofTemplate? entry.2.template = some entry.1) ∧
      router.resources.Pairwise fun a b => a.1 ≠ b.1)
    ⟨rfl, fun _ hmem => absurd hmem List.not_mem_nil, List.Pairwise.nil⟩ ?_ hrouter
  · obtain ⟨hserved, hpattern, hdifferent⟩ := hrun
    refine ⟨?_, hpattern, ?_⟩
    · rw [hserved]
      exact serves_of_foldlM hresources
    · refine List.Pairwise.forall_of_forall_of_flip (fun _ _ _ => rfl) ?_ ?_
      · exact hdifferent.imp fun hne hsame => absurd hsame hne
      · exact hdifferent.imp fun hne hsame => absurd hsame.symm hne
  · rintro done router resource next ⟨hdone, hpattern, hdifferent⟩ hnext
    obtain ⟨pattern, hfound, hclash, rfl⟩ := withResource_cases hnext
    refine ⟨?_, ?_, ?_⟩
    · rw [List.map_append, hdone]
      rfl
    · intro entry hentry
      rcases List.mem_append.1 hentry with hentry | hentry
      · exact hpattern entry hentry
      · obtain rfl := List.mem_singleton.1 hentry
        exact hfound
    · refine List.pairwise_append.2 ⟨hdifferent, List.pairwise_singleton _ _, ?_⟩
      rintro entry hentry other hother hsame
      obtain rfl := List.mem_singleton.1 hother
      have hnone := hclash entry hentry
      rw [hsame, PathPattern.clashes_self] at hnone
      cases hnone

/-! ## The resource of a path -/

/-- The best of resources is one of them, and none of them is preferred to it. -/
theorem foldl_better_spec (first : PathPattern × Resource) (rest : List (PathPattern × Resource)) :
    rest.foldl better first ∈ first :: rest ∧
      ∀ entry ∈ first :: rest, entry.1.isPreferred (rest.foldl better first).1 = false := by
  induction rest using List.reverseRecOn with
  | nil =>
    refine ⟨List.mem_cons_self, fun entry hentry => ?_⟩
    obtain rfl := List.mem_singleton.1 hentry
    exact PathPattern.isPreferred_irrefl _
  | append_singleton rest last ih =>
    obtain ⟨hmem, hbest⟩ := ih
    rw [List.foldl_append, List.foldl_cons, List.foldl_nil, ← List.cons_append]
    generalize rest.foldl better first = best at hmem hbest
    unfold better
    split
    · rename_i hlast
      refine ⟨List.mem_append_right _ (List.mem_singleton.2 rfl), fun entry hentry => ?_⟩
      rcases List.mem_append.1 hentry with hentry | hentry
      · rw [Bool.eq_false_iff]
        intro hentryLast
        have hworse := hbest entry hentry
        rw [PathPattern.isPreferred_trans hentryLast hlast] at hworse
        cases hworse
      · obtain rfl := List.mem_singleton.1 hentry
        exact PathPattern.isPreferred_irrefl _
    · rename_i hlast
      refine ⟨List.mem_append_left _ hmem, fun entry hentry => ?_⟩
      rcases List.mem_append.1 hentry with hentry | hentry
      · exact hbest entry hentry
      · obtain rfl := List.mem_singleton.1 hentry
        exact Bool.eq_false_iff.2 hlast

/-- The resource of a path has a pattern that matches it, and no other matching pattern is preferred
to that one. -/
theorem resource?_eq_some {router : Router} {path : String} {resource : Resource}
    (h : router.resource? path = some resource) :
    ∃ pattern, (pattern, resource) ∈ router.resources ∧ pattern.isMatch path.toList = true ∧
      ∀ other ∈ router.resources, other.1.isMatch path.toList = true →
        other.1.isPreferred pattern = false := by
  have hmatching : ∀ entry, entry ∈ router.resources.filter
      (fun entry => entry.1.isMatch path.toList) ↔
        entry ∈ router.resources ∧ entry.1.isMatch path.toList = true := fun entry =>
    List.mem_filter
  unfold resource? at h
  split at h
  · cases h
  · rename_i first rest hcandidates
    obtain ⟨hmem, hbest⟩ := foldl_better_spec first rest
    rw [hcandidates] at hmatching
    cases h
    obtain ⟨hresource, hmatch⟩ := (hmatching _).1 hmem
    refine ⟨_, hresource, hmatch, fun other hother hmatch => ?_⟩
    exact hbest other ((hmatching other).2 ⟨hother, hmatch⟩)

/-! ## Operations -/

/-- The operation whose controller answers requests with a method and a path. -/
def operation? (router : Router) (method path : String) : Option (Verb × String) :=
  (router.resource? path).bind fun resource =>
    (resource.answeringVerb? method).map fun verb => (verb, resource.template)

theorem operation?_eq_some_iff {router : Router} {method path : String} {verb : Verb}
    {template : String} :
    router.operation? method path = some (verb, template) ↔ ∃ resource,
      router.resource? path = some resource ∧ resource.answeringVerb? method = some verb ∧
        resource.template = template := by
  unfold operation?
  rw [Option.bind_eq_some_iff]
  refine exists_congr fun resource => and_congr_right fun _ => ?_
  rw [Option.map_eq_some_iff]
  constructor
  · rintro ⟨found, hfound, hpair⟩
    cases hpair
    exact ⟨hfound, rfl⟩
  · rintro ⟨hverb, rfl⟩
    exact ⟨verb, hverb, rfl⟩

/-- An operation that a request leads to is bound. -/
theorem exists_binding_of_operation? {router : Router} (hrouter : router.IsServing registry bindings)
    {method path : String} {verb : Verb} {template : String}
    (h : router.operation? method path = some (verb, template)) :
    ∃ binding ∈ bindings, binding.verb = verb ∧ binding.template = template ∧
      ∃ controller, Fields.get? binding.controller registry = some controller ∧
        router.destination method path = .controller controller := by
  obtain ⟨resource, hresource, hverb, rfl⟩ := operation?_eq_some_iff.1 h
  obtain ⟨pattern, hmem, _, _⟩ := resource?_eq_some hresource
  obtain ⟨controller, hcontroller⟩ := Resource.exists_handler_of_answeringVerb? hverb
  obtain ⟨⟨handlerVerb, found⟩, hhandler, rfl⟩ := Option.map_eq_some_iff.1 hcontroller
  have hsame : handlerVerb = verb := by
    simpa using List.find?_some hhandler
  obtain ⟨binding, hbinding, htemplate, hbindingVerb, hregistry⟩ :=
    hrouter.serves.has_binding resource (List.mem_map.2 ⟨_, hmem, rfl⟩) _
      (List.mem_of_find?_eq_some hhandler)
  refine ⟨binding, hbinding, hbindingVerb.trans hsame, htemplate, found, hregistry, ?_⟩
  have hanswering := resource.answering?_eq method
  rw [hverb, Option.bind_some, hcontroller] at hanswering
  unfold destination
  rw [hresource]
  simp only [hanswering]

/-- A request that leads to an operation is answered by the controller which is bound for it. -/
theorem answer_of_operation? {router : Router} (hrouter : router.IsServing registry bindings)
    {request : Request} {verb : Verb} {template : String}
    (h : router.operation? request.method request.target.path = some (verb, template)) :
    ∃ binding ∈ bindings, binding.verb = verb ∧ binding.template = template ∧
      ∃ controller, Fields.get? binding.controller registry = some controller ∧
        router.answer request = controller request := by
  obtain ⟨binding, hbinding, hverb, htemplate, controller, hregistry, hdestination⟩ :=
    exists_binding_of_operation? hrouter h
  refine ⟨binding, hbinding, hverb, htemplate, controller, hregistry, ?_⟩
  unfold answer
  rw [hdestination]

/-- A request that is led to a controller is led to an operation. -/
theorem exists_operation?_of_destination {router : Router} {method path : String}
    {controller : Controller} (h : router.destination method path = .controller controller) :
    ∃ verb template, router.operation? method path = some (verb, template) := by
  unfold destination at h
  cases hresource : router.resource? path with
  | none =>
    rw [hresource] at h
    cases h
  | some resource =>
    cases hverb : resource.answeringVerb? method with
    | none =>
      have hanswering := resource.answering?_eq method
      rw [hverb, Option.bind_none] at hanswering
      simp only [hresource, hanswering] at h
      cases h
    | some verb =>
      exact ⟨verb, resource.template, operation?_eq_some_iff.2 ⟨resource, hresource, hverb, rfl⟩⟩

end Router
end Http
end RequestGate
