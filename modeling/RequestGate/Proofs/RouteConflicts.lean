import RequestGate.Proofs.Binding
import RequestGate.Proofs.Faithfulness
import RequestGate.Proofs.RouteShapes

/-!
# Conflicts between bindings

Bindings are grouped by the shapes of their routes before any of them is registered.  Binding fails with
a conflict exactly when two bindings with different templates have routes of one shape.  Nothing looks
at the templates themselves: one that has no pattern is refused when it is registered, and so are two
whose patterns clash.  Where every name in braces is a segment of its own, templates of different shapes
do not clash.

Main results:

- Theorem `Http.Router.foldlM_withBinding_cases`: bindings are grouped, or two of them are in conflict.
- Theorem `Http.Router.exists_foldlM_withResource`: resources whose patterns do not clash make a router.
- Theorem `Http.Router.bindsByShape_of_compile`: what the bindings of a description lead to.
-/

namespace RequestGate
namespace Http

namespace Resource

/-- A controller more is found for its method, unless there was one. -/
theorem handler?_append (resource : Resource) (added verb : Verb) (controller : Controller) :
    handler? verb { resource with handlers := resource.handlers ++ [(added, controller)] } =
      (resource.handler? verb).or (if added = verb then some controller else none) := by
  unfold handler?
  rw [List.find?_append, Option.map_or, List.find?_singleton]
  by_cases h : added = verb <;> simp [h]

end Resource

namespace Router

open PathPattern

variable {registry : Registry} {bindings done : List Binding}

/-! ## Shapes in conflict -/

/-- Bindings whose routes have the same shape have the same template. -/
def IsUnambiguous (bindings : List Binding) : Prop :=
  ∀ first ∈ bindings, ∀ second ∈ bindings, shape first.route = shape second.route →
    first.template = second.template

theorem not_isUnambiguous_iff : ¬ IsUnambiguous bindings ↔ ∃ first ∈ bindings,
    ∃ second ∈ bindings, first.template ≠ second.template ∧
      shape first.route = shape second.route := by
  simp only [IsUnambiguous, not_forall, exists_prop, ne_eq, and_comm (a := ¬ _)]

theorem IsUnambiguous.append_singleton (h : IsUnambiguous done) {binding : Binding}
    (hbinding : ∀ other ∈ done, shape other.route = shape binding.route →
      other.template = binding.template) : IsUnambiguous (done ++ [binding]) := by
  intro first hfirst second hsecond hshape
  rcases List.mem_append.1 hfirst with hold | hlast <;>
    rcases List.mem_append.1 hsecond with hold' | hlast'
  · exact h first hold second hold' hshape
  · obtain rfl := List.mem_singleton.1 hlast'
    exact hbinding first hold hshape
  · obtain rfl := List.mem_singleton.1 hlast
    exact (hbinding second hold' hshape.symm).symm
  · rw [List.mem_singleton.1 hlast, List.mem_singleton.1 hlast']

/-- The first binding whose shape has been taken by another template, with both templates. -/
def ClashesFirst (bindings : List Binding) (first second : String) : Prop :=
  ∃ before binding after, bindings = before ++ binding :: after ∧ IsUnambiguous before ∧
    binding.template = second ∧ first ≠ second ∧
      ∃ other ∈ before, other.template = first ∧ shape other.route = shape binding.route

theorem ClashesFirst.append {first second : String} (h : ClashesFirst done first second)
    (more : List Binding) : ClashesFirst (done ++ more) first second := by
  obtain ⟨before, binding, after, rfl, hclash⟩ := h
  exact ⟨before, binding, after ++ more, by simp, hclash⟩

theorem ClashesFirst.not_isUnambiguous {first second : String}
    (h : ClashesFirst bindings first second) : ¬ IsUnambiguous bindings := by
  obtain ⟨before, binding, after, rfl, _, rfl, hne, other, hother, rfl, hshape⟩ := h
  intro hsame
  exact hne (hsame other (List.mem_append_left _ hother) binding
    (List.mem_append_right _ List.mem_cons_self) hshape)

/-! ## Grouping -/

/-- A resource answers a method with the controller that a binding names. -/
def Registered (registry : Registry) (resource : Resource) (binding : Binding) : Prop :=
  resource.template = binding.template ∧ ∃ controller,
    Fields.get? binding.controller registry = some controller ∧
      resource.handler? binding.verb = some controller

/-- Resources group bindings by the shapes of their routes. -/
structure Groups (registry : Registry) (bindings : List Binding) (resources : Fields Resource) :
    Prop where
  distinct : resources.Distinct
  registered : ∀ binding ∈ bindings, ∃ resource,
    Fields.get? (shape binding.route) resources = some resource ∧
      Registered registry resource binding
  has_binding : ∀ key resource, Fields.get? key resources = some resource →
    ∃ binding ∈ bindings, shape binding.route = key ∧ binding.template = resource.template
  bound_by : ∀ key resource verb controller, Fields.get? key resources = some resource →
    resource.handler? verb = some controller →
      ∃ binding ∈ bindings, binding.template = resource.template ∧ binding.verb = verb

theorem Groups.empty (registry : Registry) : Groups registry [] [] := by
  constructor
  case distinct => exact List.nodup_nil
  case registered => exact fun _ hmem => absurd hmem List.not_mem_nil
  case has_binding => exact fun _ _ h => nomatch h
  case bound_by => exact fun _ _ _ _ h => nomatch h

/-- A binding is grouped by a resource that has the controllers of the one before and its own. -/
theorem Groups.extend {resources next : Fields Resource} (h : Groups registry done resources)
    {binding : Binding} {controller : Controller} (resource : Resource)
    (hcontroller : Fields.get? binding.controller registry = some controller)
    (hbefore : ∀ found, Fields.get? (shape binding.route) resources = some found →
      found.template = binding.template ∧ found.handler? binding.verb = none)
    (htemplate : resource.template = binding.template)
    (hhandlers : ∀ verb, resource.handler? verb =
      ((Fields.get? (shape binding.route) resources).bind (Resource.handler? verb)).or
        (if binding.verb = verb then some controller else none))
    (hdistinct : next.Distinct)
    (hget : ∀ key, Fields.get? key next =
      if key = shape binding.route then some resource else Fields.get? key resources) :
    Groups registry (done ++ [binding]) next := by
  constructor
  case distinct => exact hdistinct
  case registered =>
    intro other hother
    rw [hget]
    rcases List.mem_append.1 hother with hother | hother
    · obtain ⟨found, hfound, hsame, named, hnamed, hhandler⟩ := h.registered other hother
      by_cases hshape : shape other.route = shape binding.route
      · rw [if_pos hshape]
        rw [hshape] at hfound
        refine ⟨resource, rfl, ?_, named, hnamed, ?_⟩
        · rw [htemplate, ← (hbefore found hfound).1, hsame]
        · rw [hhandlers, hfound, Option.bind_some, hhandler, Option.some_or]
      · rw [if_neg hshape]
        exact ⟨found, hfound, hsame, named, hnamed, hhandler⟩
    · obtain rfl := List.mem_singleton.1 hother
      refine ⟨resource, if_pos rfl, htemplate, controller, hcontroller, ?_⟩
      have hnone : (Fields.get? (shape other.route) resources).bind (Resource.handler? other.verb) =
          none := Option.bind_eq_none_iff.2 fun found hfound => (hbefore found hfound).2
      rw [hhandlers, hnone, if_pos rfl, Option.none_or]
  case has_binding =>
    intro key found hfound
    rw [hget] at hfound
    split at hfound
    · rename_i hkey
      cases hfound
      exact ⟨binding, List.mem_append_right _ (List.mem_singleton.2 rfl), hkey.symm, htemplate.symm⟩
    · obtain ⟨other, hother, hbound⟩ := h.has_binding key found hfound
      exact ⟨other, List.mem_append_left _ hother, hbound⟩
  case bound_by =>
    intro key found verb answering hfound hanswering
    rw [hget] at hfound
    split at hfound
    · cases hfound
      rw [hhandlers, Option.or_eq_some_iff] at hanswering
      rcases hanswering with hold | ⟨_, hnew⟩
      · obtain ⟨old, hfound, hold⟩ := Option.bind_eq_some_iff.1 hold
        obtain ⟨other, hother, hsame, hverb⟩ := h.bound_by _ old verb answering hfound hold
        refine ⟨other, List.mem_append_left _ hother, ?_, hverb⟩
        rw [hsame, (hbefore old hfound).1, htemplate]
      · split at hnew
        · rename_i hverb
          exact ⟨binding, List.mem_append_right _ (List.mem_singleton.2 rfl), htemplate.symm, hverb⟩
        · cases hnew
    · obtain ⟨other, hother, hbound⟩ := h.bound_by key found verb answering hfound hanswering
      exact ⟨other, List.mem_append_left _ hother, hbound⟩

/-- A binding for a shape that no binding has had. -/
theorem Groups.withNew {resources : Fields Resource} (h : Groups registry done resources)
    {binding : Binding} {controller : Controller}
    (hcontroller : Fields.get? binding.controller registry = some controller)
    (hnone : Fields.get? (shape binding.route) resources = none) :
    ∃ next, withBinding registry resources binding = .ok next ∧
      Groups registry (done ++ [binding]) next := by
  refine ⟨resources.insert (shape binding.route)
    ⟨binding.template, [(binding.verb, controller)]⟩, ?_, ?_⟩
  · unfold withBinding
    simp only [hcontroller, hnone]
  · refine h.extend ⟨binding.template, [(binding.verb, controller)]⟩ hcontroller
      (fun found hfound => ?_) rfl (fun verb => ?_) (Fields.distinct_insert h.distinct _ _)
      fun key => Fields.get?_insert _ _ _ _
    · rw [hnone] at hfound
      cases hfound
    · rw [hnone]
      exact Resource.handler?_append ⟨binding.template, []⟩ binding.verb verb controller

/-- A binding for a shape whose bindings have its template, but not its method. -/
theorem Groups.withHandler {resources : Fields Resource} (h : Groups registry done resources)
    {binding : Binding} {controller : Controller} {resource : Resource}
    (hcontroller : Fields.get? binding.controller registry = some controller)
    (hresource : Fields.get? (shape binding.route) resources = some resource)
    (htemplate : resource.template = binding.template)
    (hhandler : resource.handler? binding.verb = none) :
    ∃ next, withBinding registry resources binding = .ok next ∧
      Groups registry (done ++ [binding]) next := by
  refine ⟨(resources.erase (shape binding.route)).insert (shape binding.route)
    { resource with handlers := resource.handlers ++ [(binding.verb, controller)] }, ?_, ?_⟩
  · unfold withBinding
    simp [hcontroller, hresource, htemplate, hhandler]
  · refine h.extend { resource with handlers := resource.handlers ++ [(binding.verb, controller)] }
      hcontroller (fun found hfound => ?_) htemplate (fun verb => ?_)
      (Fields.distinct_insert (Fields.distinct_erase h.distinct _) _ _) fun key => ?_
    · rw [hresource] at hfound
      cases hfound
      exact ⟨htemplate, hhandler⟩
    · rw [hresource]
      exact resource.handler?_append binding.verb verb controller
    · rw [Fields.get?_insert]
      split
      · rfl
      · rename_i hkey
        exact Fields.get?_erase_of_ne hkey _

/-- One more binding is grouped with those before, or it is in conflict with one of them. -/
theorem Groups.step {resources : Fields Resource} (h : Groups registry done resources)
    (hdone : IsUnambiguous done) {binding : Binding} {controller : Controller}
    (hcontroller : Fields.get? binding.controller registry = some controller)
    (hnew : ∀ other ∈ done, other.template = binding.template → other.verb ≠ binding.verb) :
    (IsUnambiguous (done ++ [binding]) ∧ ∃ next, withBinding registry resources binding = .ok next ∧
        Groups registry (done ++ [binding]) next) ∨
      ∃ first second, ClashesFirst (done ++ [binding]) first second ∧
        withBinding registry resources binding = .error (.conflict first second) := by
  cases hresource : Fields.get? (shape binding.route) resources with
  | none =>
    refine .inl ⟨hdone.append_singleton fun other hother hshape => ?_, h.withNew hcontroller hresource⟩
    obtain ⟨found, hfound, _⟩ := h.registered other hother
    rw [hshape, hresource] at hfound
    cases hfound
  | some resource =>
    by_cases htemplate : resource.template = binding.template
    · refine .inl ⟨hdone.append_singleton fun other hother hshape => ?_,
        h.withHandler hcontroller hresource htemplate ?_⟩
      · obtain ⟨found, hfound, hsame, _⟩ := h.registered other hother
        rw [hshape, hresource] at hfound
        cases hfound
        rw [← hsame, htemplate]
      · rw [Option.eq_none_iff_forall_ne_some]
        intro bound hbound
        obtain ⟨other, hother, hsame, hverb⟩ := h.bound_by _ _ _ _ hresource hbound
        exact hnew other hother (hsame.trans htemplate) hverb
    · obtain ⟨other, hother, hshape, hsame⟩ := h.has_binding _ _ hresource
      refine .inr ⟨resource.template, binding.template, ⟨done, binding, [], rfl, hdone, rfl, htemplate,
        other, hother, hsame, hshape⟩, ?_⟩
      unfold withBinding
      simp [hcontroller, hresource, htemplate]

/-- Bindings are grouped when no two of them are in conflict, and otherwise the first conflict is
reported. -/
theorem foldlM_withBinding_cases
    (hknown : ∀ binding ∈ bindings, ∃ controller,
      Fields.get? binding.controller registry = some controller)
    (hdifferent : bindings.Pairwise fun a b => a.template = b.template → a.verb ≠ b.verb) :
    (IsUnambiguous bindings ∧ ∃ resources,
        bindings.foldlM (withBinding registry) [] = .ok resources ∧
          Groups registry bindings resources) ∨
      ∃ first second, ClashesFirst bindings first second ∧
        bindings.foldlM (withBinding registry) [] = .error (.conflict first second) := by
  induction bindings using List.reverseRecOn with
  | nil => exact .inl ⟨fun _ hmem => absurd hmem List.not_mem_nil, [], rfl, Groups.empty registry⟩
  | append_singleton done binding ih =>
    rw [List.forall_mem_append] at hknown
    obtain ⟨hpairs, _, hcross⟩ := List.pairwise_append.1 hdifferent
    obtain ⟨controller, hcontroller⟩ := hknown.2 binding (List.mem_singleton.2 rfl)
    rw [List.foldlM_append]
    rcases ih hknown.1 hpairs with ⟨hdone, resources, hrun, hgroups⟩ | ⟨first, second, hclash, hrun⟩
    · rw [hrun]
      have hnew := fun other hother => hcross other hother binding (List.mem_singleton.2 rfl)
      rcases hgroups.step hdone hcontroller hnew with
        ⟨hboth, next, hnext, hgroups⟩ | ⟨first, second, hclash, herror⟩
      · refine .inl ⟨hboth, next, ?_, hgroups⟩
        show [binding].foldlM (withBinding registry) resources = .ok next
        rw [List.foldlM_cons, hnext]
        rfl
      · refine .inr ⟨first, second, hclash, ?_⟩
        show [binding].foldlM (withBinding registry) resources = .error (.conflict first second)
        rw [List.foldlM_cons, herror]
        rfl
    · rw [hrun]
      exact .inr ⟨first, second, hclash.append [binding], rfl⟩

/-- Resources of different shapes have different templates, as the template of a binding says its
route. -/
theorem Groups.pairwise_template_ne {resources : Fields Resource}
    (h : Groups registry bindings resources)
    (hroutes : ∀ binding ∈ bindings, binding.route = Route.ofBraces binding.template) :
    (resources.map Prod.snd).Pairwise fun a b => a.template ≠ b.template := by
  have hkey : ∀ entry ∈ resources, entry.1 = shape (Route.ofBraces entry.2.template) := by
    intro entry hentry
    have hget := (Fields.get?_eq_some_iff_mem h.distinct).2 hentry
    obtain ⟨binding, hbinding, hshape, htemplate⟩ := h.has_binding _ _ hget
    rw [← hshape, hroutes binding hbinding, htemplate]
  rw [List.pairwise_map]
  refine (List.pairwise_map.1 h.distinct).imp_of_mem fun ha hb hne hsame => hne ?_
  rw [hkey _ ha, hkey _ hb, hsame]

/-! ## Registering -/

/-- A resource with a pattern that clashes with no other is registered. -/
theorem withResource_of_pattern {router : Router} {resource : Resource} {pattern : PathPattern}
    (hpattern : ofTemplate? resource.template = some pattern)
    (hclash : ∀ entry ∈ router.resources, entry.1.clashes pattern = false) :
    withResource router resource = .ok ⟨router.resources ++ [(pattern, resource)]⟩ := by
  have hnone : (router.resources.any fun entry => entry.1.clashes pattern) = false :=
    List.any_eq_false.2 fun entry hentry => Bool.eq_false_iff.1 (hclash entry hentry)
  unfold withResource
  rw [hpattern]
  simp [hnone]

/-- Resources that are not registered are refused. -/
theorem refused_of_foldlM_withResource {resources : List Resource} {router : Router} {e : BindError}
    (h : resources.foldlM withResource router = .error e) : ∃ template, e = .refused template := by
  induction resources generalizing router with
  | nil => cases h
  | cons resource rest ih =>
    rw [List.foldlM_cons, Fallible.bind_eq_error_iff] at h
    rcases h with h | ⟨next, _, hrest⟩
    · unfold withResource at h
      split at h
      · exact ⟨_, (Except.error.inj h).symm⟩
      · split at h
        · exact ⟨_, (Except.error.inj h).symm⟩
        · cases h
    · exact ih hrest

/-- Two templates have patterns that clash. -/
def TemplatesClash (first second : String) : Prop :=
  ∃ pattern other, ofTemplate? first = some pattern ∧ ofTemplate? second = some other ∧
    clashes pattern other = true

/-- Resources whose templates have patterns, no two of which clash, make a router. -/
theorem exists_foldlM_withResource {resources : List Resource}
    (hpattern : ∀ resource ∈ resources, ∃ pattern, ofTemplate? resource.template = some pattern)
    (hclash : resources.Pairwise fun a b => ¬ TemplatesClash a.template b.template) :
    ∃ router, resources.foldlM withResource empty = .ok router ∧
      router.resources.map Prod.snd = resources ∧
        ∀ entry ∈ router.resources, ofTemplate? entry.2.template = some entry.1 := by
  induction resources using List.reverseRecOn with
  | nil => exact ⟨empty, rfl, rfl, fun _ hmem => absurd hmem List.not_mem_nil⟩
  | append_singleton resources resource ih =>
    rw [List.forall_mem_append] at hpattern
    obtain ⟨hpairs, _, hcross⟩ := List.pairwise_append.1 hclash
    obtain ⟨router, hrouter, hresources, hpatterns⟩ := ih hpattern.1 hpairs
    obtain ⟨pattern, hlast⟩ := hpattern.2 resource (List.mem_singleton.2 rfl)
    have hnext := withResource_of_pattern hlast fun entry hentry => by
      have hmem : entry.2 ∈ resources := hresources ▸ List.mem_map_of_mem hentry
      rw [Bool.eq_false_iff]
      exact fun hclash => hcross entry.2 hmem resource (List.mem_singleton.2 rfl)
        ⟨entry.1, pattern, hpatterns entry hentry, hlast, hclash⟩
    refine ⟨⟨router.resources ++ [(pattern, resource)]⟩, ?_, ?_, ?_⟩
    · rw [List.foldlM_append, hrouter]
      show [resource].foldlM withResource router = _
      rw [List.foldlM_cons, hnext]
      rfl
    · rw [List.map_append, hresources]
      rfl
    · intro entry hentry
      rcases List.mem_append.1 hentry with hold | hnew
      · exact hpatterns entry hold
      · obtain rfl := List.mem_singleton.1 hnew
        exact hlast

/-! ## Binding -/

/-- Every binding is registered under the pattern of its template and its method. -/
def RegistersAll (router : Router) (registry : Registry) (bindings : List Binding) : Prop :=
  ∀ binding ∈ bindings, ∃ entry ∈ router.resources,
    ofTemplate? binding.template = some entry.1 ∧ Registered registry entry.2 binding

/-- What bindings lead to, by the shapes of their routes. -/
structure BindsByShape (registry : Registry) (bindings : List Binding) : Prop where
  /-- There is a conflict exactly when two templates have routes of one shape. -/
  conflict_iff : (∃ first second, bind registry bindings = .error (.conflict first second)) ↔
    ∃ first ∈ bindings, ∃ second ∈ bindings, first.template ≠ second.template ∧
      shape first.route = shape second.route
  reports_first : ∀ first second, bind registry bindings = .error (.conflict first second) →
    ClashesFirst bindings first second
  /-- No other error is reported. -/
  error_cases : ∀ e, bind registry bindings = .error e →
    (∃ first second, e = .conflict first second) ∨ ∃ template, e = .refused template
  /-- A template without a pattern is refused. -/
  refuses : IsUnambiguous bindings → (∃ binding ∈ bindings, ofTemplate? binding.template = none) →
    ∃ template, bind registry bindings = .error (.refused template)
  /-- Templates with patterns that do not clash are registered. -/
  registers : IsUnambiguous bindings →
    (∀ binding ∈ bindings, ∃ pattern, ofTemplate? binding.template = some pattern) →
    (∀ first ∈ bindings, ∀ second ∈ bindings, first.template ≠ second.template →
      ¬ TemplatesClash first.template second.template) →
    ∃ router, bind registry bindings = .ok router ∧ router.IsServing registry bindings ∧
      router.RegistersAll registry bindings
  /-- Templates with patterns do not clash when their names are segments of their own. -/
  registers_whole : IsUnambiguous bindings →
    (∀ binding ∈ bindings, HasWholeNames binding.template ∧
      ∃ pattern, ofTemplate? binding.template = some pattern) →
    ∃ router, bind registry bindings = .ok router ∧ router.IsServing registry bindings ∧
      router.RegistersAll registry bindings

/-- Groups whose templates have patterns that do not clash make a router for all bindings. -/
theorem Groups.exists_router {resources : Fields Resource} (h : Groups registry bindings resources)
    (hrun : bindings.foldlM (withBinding registry) [] = .ok resources)
    (hroutes : ∀ binding ∈ bindings, binding.route = Route.ofBraces binding.template)
    (hpattern : ∀ binding ∈ bindings, ∃ pattern, ofTemplate? binding.template = some pattern)
    (hclash : ∀ first ∈ bindings, ∀ second ∈ bindings, first.template ≠ second.template →
      ¬ TemplatesClash first.template second.template) :
    ∃ router, bind registry bindings = .ok router ∧ router.IsServing registry bindings ∧
      router.RegistersAll registry bindings := by
  have hbinding : ∀ resource ∈ resources.map Prod.snd, ∃ binding ∈ bindings,
      binding.template = resource.template := by
    intro resource hresource
    obtain ⟨entry, hentry, rfl⟩ := List.mem_map.1 hresource
    have hget := (Fields.get?_eq_some_iff_mem h.distinct).2 hentry
    obtain ⟨binding, hmem, _, htemplate⟩ := h.has_binding _ _ hget
    exact ⟨binding, hmem, htemplate⟩
  have hpatterns : ∀ resource ∈ resources.map Prod.snd, ∃ pattern,
      ofTemplate? resource.template = some pattern := by
    intro resource hresource
    obtain ⟨binding, hmem, htemplate⟩ := hbinding resource hresource
    exact htemplate ▸ hpattern binding hmem
  have hclashes : (resources.map Prod.snd).Pairwise fun a b =>
      ¬ TemplatesClash a.template b.template := by
    refine (h.pairwise_template_ne hroutes).imp_of_mem fun ha hb hne => ?_
    obtain ⟨first, hfirst, hfirstTemplate⟩ := hbinding _ ha
    obtain ⟨second, hsecond, hsecondTemplate⟩ := hbinding _ hb
    rw [← hfirstTemplate, ← hsecondTemplate] at hne ⊢
    exact hclash first hfirst second hsecond hne
  obtain ⟨router, hrouter, hresources, hread⟩ := exists_foldlM_withResource hpatterns hclashes
  have hbound : bind registry bindings = .ok router :=
    Fallible.bind_eq_ok_iff.2 ⟨resources, hrun, hrouter⟩
  refine ⟨router, hbound, bind_isServing hbound, fun binding hmem => ?_⟩
  obtain ⟨resource, hget, hregistered⟩ := h.registered binding hmem
  have hresource : resource ∈ router.resources.map Prod.snd := by
    rw [hresources]
    exact List.mem_map.2 ⟨_, Fields.mem_of_get? hget, rfl⟩
  obtain ⟨entry, hentry, rfl⟩ := List.mem_map.1 hresource
  exact ⟨entry, hentry, hregistered.1 ▸ hread entry hentry, hregistered⟩

/-- Bindings that are grouped: only the templates decide. -/
theorem Groups.bindsByShape {resources : Fields Resource} (h : Groups registry bindings resources)
    (hfree : IsUnambiguous bindings)
    (hrun : bindings.foldlM (withBinding registry) [] = .ok resources)
    (hroutes : ∀ binding ∈ bindings, binding.route = Route.ofBraces binding.template) :
    BindsByShape registry bindings := by
  have herror : ∀ e, bind registry bindings = .error e → ∃ template, e = .refused template := by
    intro e he
    unfold bind at he
    rw [hrun] at he
    exact refused_of_foldlM_withResource he
  have hnoConflict : ∀ first second, bind registry bindings ≠ .error (.conflict first second) := by
    intro first second he
    obtain ⟨_, hrefused⟩ := herror _ he
    cases hrefused
  constructor
  case conflict_iff =>
    rw [← not_isUnambiguous_iff]
    exact iff_of_false (fun ⟨_, _, he⟩ => hnoConflict _ _ he) (not_not.2 hfree)
  case reports_first => exact fun first second he => absurd he (hnoConflict first second)
  case error_cases => exact fun e he => .inr (herror e he)
  case refuses =>
    rintro _ ⟨binding, hbinding, hnone⟩
    cases hresult : bind registry bindings with
    | error e =>
      obtain ⟨template, rfl⟩ := herror e hresult
      exact ⟨template, rfl⟩
    | ok router =>
      -- A router has the pattern of every template that it serves.
      have hserving := bind_isServing hresult
      obtain ⟨resource, hresource, htemplate⟩ := hserving.serves.has_resource binding hbinding
      obtain ⟨entry, hentry, rfl⟩ := List.mem_map.1 hresource
      have hpattern := hserving.has_pattern entry hentry
      rw [htemplate, hnone] at hpattern
      cases hpattern
  case registers => exact fun _ => h.exists_router hrun hroutes
  case registers_whole =>
    intro _ hwhole
    refine h.exists_router hrun hroutes (fun binding hbinding => (hwhole binding hbinding).2) ?_
    rintro first hfirst second hsecond hne ⟨pattern, other, hpattern, hother, hclash⟩
    have hshape := shape_eq_of_clashes (hwhole first hfirst).1 (hwhole second hsecond).1 hpattern
      hother hclash
    rw [← hroutes first hfirst, ← hroutes second hsecond] at hshape
    exact hne (hfree first hfirst second hsecond hshape)

/-- Bindings in conflict: the first conflict is reported, whatever the templates are. -/
theorem ClashesFirst.bindsByShape {first second : String} (h : ClashesFirst bindings first second)
    (hrun : bindings.foldlM (withBinding registry) [] = .error (.conflict first second)) :
    BindsByShape registry bindings := by
  have hbind : bind registry bindings = .error (.conflict first second) := by
    unfold bind
    rw [hrun]
    rfl
  have hreported : ∀ e, bind registry bindings = .error e → e = .conflict first second := by
    intro e he
    rw [hbind] at he
    exact (Except.error.inj he).symm
  constructor
  case conflict_iff =>
    rw [← not_isUnambiguous_iff]
    exact iff_of_true ⟨first, second, hbind⟩ h.not_isUnambiguous
  case reports_first =>
    intro _ _ he
    cases hreported _ he
    exact h
  case error_cases => exact fun e he => .inl ⟨first, second, hreported e he⟩
  case refuses => exact fun hfree => absurd hfree h.not_isUnambiguous
  case registers => exact fun hfree => absurd hfree h.not_isUnambiguous
  case registers_whole => exact fun hfree => absurd hfree h.not_isUnambiguous

/-- What the bindings of a compiled description lead to, when all their controllers are known. -/
theorem bindsByShape_of_compile {description : Description} {compiled : Compiled}
    (hdistinct : description.paths.Distinct) (hcompile : description.compile = .ok compiled)
    (hknown : ∀ binding ∈ compiled.bindings, ∃ controller,
      Fields.get? binding.controller registry = some controller) :
    BindsByShape registry compiled.bindings := by
  have hbindings := (Description.compile_cases hcompile).2.2
  have hroutes : ∀ binding ∈ compiled.bindings,
      binding.route = Route.ofBraces binding.template := by
    intro binding hbinding
    rw [hbindings] at hbinding
    exact (Description.mem_bindings.1 hbinding).1
  have hdifferent : compiled.bindings.Pairwise fun a b =>
      a.template = b.template → a.verb ≠ b.verb := by
    rw [hbindings]
    refine (Description.pairwise_bindings hdistinct).imp fun hprecedes htemplate hverb => ?_
    exact hprecedes.ne (Prod.ext htemplate hverb)
  rcases foldlM_withBinding_cases hknown hdifferent with
    ⟨hfree, resources, hrun, hgroups⟩ | ⟨first, second, hclash, hrun⟩
  · exact hgroups.bindsByShape hfree hrun hroutes
  · exact hclash.bindsByShape hrun

/-- Two operations of one path, and another path with a name of its own. -/
def usersAndPets : Description where
  swagger := none
  openapi := none
  paths :=
    [("/users/\x7bid\x7d", ⟨fun
        | .get => some ⟨none, none, some "show"⟩
        | .put => some ⟨none, none, some "update"⟩
        | _ => none⟩),
      ("/pets/\x7bpet\x7d", ⟨fun
        | .get => some ⟨none, none, some "show"⟩
        | _ => none⟩)]

/-- Controllers that answer nothing. -/
def silentRegistry : Registry :=
  [("show", fun _ => none), ("update", fun _ => none)]

theorem usersAndPets_bindsByShape : usersAndPets.paths.Distinct ∧ ∃ compiled,
    usersAndPets.compile = .ok compiled ∧ compiled.bindings.length = 3 ∧
      (∀ binding ∈ compiled.bindings, ∃ controller,
        Fields.get? binding.controller silentRegistry = some controller) ∧
      BindsByShape silentRegistry compiled.bindings ∧
      ∃ router, bind silentRegistry compiled.bindings = .ok router := by
  have hdistinct : usersAndPets.paths.Distinct := by
    unfold Fields.Distinct
    decide
  obtain ⟨compiled, hcompile, hbindings⟩ : ∃ compiled, usersAndPets.compile = .ok compiled ∧
      compiled.bindings = [⟨.get, "/users/\x7bid\x7d", "/users/:id", "show"⟩,
        ⟨.put, "/users/\x7bid\x7d", "/users/:id", "update"⟩,
        ⟨.get, "/pets/\x7bpet\x7d", "/pets/:pet", "show"⟩] :=
    ⟨_, rfl, by decide⟩
  have hknown : ∀ binding ∈ compiled.bindings, ∃ controller,
      Fields.get? binding.controller silentRegistry = some controller := by
    rw [hbindings]
    simp [silentRegistry, Fields.get?_cons]
  refine ⟨hdistinct, compiled, hcompile, by rw [hbindings]; rfl, hknown,
    bindsByShape_of_compile hdistinct hcompile hknown, ?_⟩
  rw [hbindings]
  exact ⟨_, rfl⟩

/-- A path key without a slash at its start. -/
def unrooted : Description where
  swagger := none
  openapi := none
  paths := [("users", ⟨fun
    | .get => some ⟨none, none, some "show"⟩
    | _ => none⟩)]

/-- No two bindings are in conflict, and still there is no router: templates are not vetted before they
are registered. -/
theorem unrooted_refused : ∃ compiled, unrooted.compile = .ok compiled ∧
    (∀ binding ∈ compiled.bindings, ∃ controller,
      Fields.get? binding.controller silentRegistry = some controller) ∧
    (¬ ∃ first ∈ compiled.bindings, ∃ second ∈ compiled.bindings,
      first.template ≠ second.template ∧ shape first.route = shape second.route) ∧
    bind silentRegistry compiled.bindings = .error (.refused "users") ∧
    ¬ ∃ router, bind silentRegistry compiled.bindings = .ok router := by
  obtain ⟨compiled, hcompile, hbindings⟩ : ∃ compiled, unrooted.compile = .ok compiled ∧
      compiled.bindings = [⟨.get, "users", "users", "show"⟩] :=
    ⟨_, rfl, by decide⟩
  have hrefused : bind silentRegistry compiled.bindings = .error (.refused "users") := by
    rw [hbindings]
    rfl
  refine ⟨compiled, hcompile, ?_, ?_, hrefused, ?_⟩
  · rw [hbindings]
    simp [silentRegistry, Fields.get?_cons]
  · rw [hbindings]
    simp
  · rintro ⟨router, hrouter⟩
    rw [hrefused] at hrouter
    cases hrouter

end Router
end Http
end RequestGate
