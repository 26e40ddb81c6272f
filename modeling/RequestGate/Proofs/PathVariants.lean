import RequestGate.Proofs.GreatestMatch
import RequestGate.Proofs.Planning

/-!
# Paths in another case or with a slash at the end

Templates are compared with a path in lower case, so paths with one lower case resolve to one template.
The values of its parameters are taken from each path as it was sent; their names are those of the
template.  A path that does not end in a slash has the same segments with a slash behind it, in lower
case too: a slash neither belongs to a word nor is passed over at the end of one, so a capital sigma
before it stays the last letter of its word.

Main results:

- Theorem `Case.lower_append_slash`: a slash at the end changes nothing before it in lower case.
- Theorem `Route.map_withoutValues_capture?`: all but the values of captures depends on the path in lower
  case.
- Theorem `Route.Index.map_withoutValues_resolve?`: paths with one lower case resolve alike.
- Theorem `Route.Index.resolve?_append_slash`: a slash at the end changes nothing.
- Theorem `Gate.plan?_pathVariants`: requests that differ so are planned alike.
-/

namespace RequestGate
namespace Case

/-! ## A slash at the end -/

theorem nextIsCased_append_slash (text : List Char) :
    nextIsCased (text ++ ['/']) = nextIsCased text := by
  have hignorable : isIgnorable '/' = false := by decide +kernel
  have hcased : isCased '/' = false := by decide +kernel
  unfold nextIsCased
  rw [List.dropWhile_append]
  cases htext : text.dropWhile isIgnorable with
  | nil => simp [hignorable, hcased]
  | cons c rest => simp

theorem lowerAfter_append_slash (before text : List Char) :
    lowerAfter before (text ++ ['/']) = lowerAfter before text ++ [['/']] := by
  induction text generalizing before with
  | nil => rfl
  | cons c text ih => simp only [List.cons_append, lowerAfter, nextIsCased_append_slash, ih]

/-- A slash at the end changes nothing before it in lower case, not even a sigma that it follows. -/
theorem lower_append_slash (text : String) : lower (text ++ "/") = lower text ++ "/" := by
  have hslash : "/".toList = ['/'] := rfl
  unfold lower
  rw [String.toList_append, hslash, lowerAfter_append_slash, ← String.toList_inj]
  simp

end Case

namespace Route

/-! ## Resolutions without values -/

/-- The template of a resolution and the names of its parameters. -/
def Resolution.withoutValues (resolution : Resolution) : String × List String :=
  (resolution.template, resolution.captures.names)

/-- Whether a template captures, and under which names, depends on how many segments were sent and not
on what they are. -/
theorem map_withoutValues_capture? (template : String) (lowered sent : List String) :
    ((capture? template lowered sent).map (Resolution.mk template)).map Resolution.withoutValues =
      if fits (templateSegments template) lowered && lowered.length = sent.length then
        some (template, ((templateSegments template).filterMap Segment.name?).eraseDups)
      else none := by
  unfold capture?
  split
  · rename_i h
    rw [Bool.and_eq_true, decide_eq_true_eq, fits_eq_true_iff] at h
    have hnames := map_fst_named (h.1.length_eq.trans h.2)
    rw [Option.map_some, Option.map_some, Resolution.withoutValues, Fields.names_ofList, hnames]
  · rfl

namespace Index

/-- Paths with one lower case resolve to one template with the same names. -/
theorem map_withoutValues_resolve? {path other : String} (h : Case.lower path = Case.lower other)
    (index : Index) :
    (index.resolve? path).map Resolution.withoutValues =
      (index.resolve? other).map Resolution.withoutValues := by
  have hlength : (segments path).length = (segments other).length := by
    rw [← length_segments_lower, h, length_segments_lower]
  unfold resolve?
  simp only [List.map_findSome?, Function.comp_def, map_withoutValues_capture?, h, hlength]

/-- A slash behind a path that does not end in one changes neither the template nor the values. -/
theorem resolve?_append_slash {path : String} (h : path.toList.getLast? ≠ some '/') (index : Index) :
    index.resolve? (path ++ "/") = index.resolve? path := by
  have hlower := (Case.isLowering_lower path).getLast?_ne_slash h
  unfold resolve?
  rw [Case.lower_append_slash, segments_append_slash h, segments_append_slash hlower]

end Index
end Route

/-! ## Plans without values -/

/-- The route of a plan, the names of its parameters, the verb and the rules. -/
def Plan.withoutValues (plan : Plan) : (String × List String) × Verb × LocationRules :=
  ((plan.route, plan.captures.names), plan.verb, plan.rules)

namespace Gate

variable {σ : Type}

/-- A plan takes nothing from the path but what it resolves to. -/
theorem plan?_eq_of_resolve?_eq {gate : Gate σ} {path other : String}
    (h : gate.compiled.routes.resolve? path = gate.compiled.routes.resolve? other) (method : String) :
    gate.plan? path method = gate.plan? other method := by
  unfold plan?
  rw [h]

/-- The rules of a plan depend on the template and not on the values of its parameters. -/
theorem map_withoutValues_plan? (gate : Gate σ) (path method : String) :
    (gate.plan? path method).map Plan.withoutValues =
      (Verb.ofName? method).bind fun verb =>
        ((gate.compiled.routes.resolve? path).map Route.Resolution.withoutValues).bind fun selected =>
          (gate.compiled.rules.lookup? selected.1 verb).map fun rules => (selected, verb, rules) := by
  unfold plan?
  cases Verb.ofName? method with
  | none => rfl
  | some verb =>
    cases gate.compiled.routes.resolve? path with
    | none => rfl
    | some resolution =>
      cases hrules : gate.compiled.rules.lookup? resolution.template verb with
      | none => simp [Route.Resolution.withoutValues, hrules]
      | some rules => simp [Route.Resolution.withoutValues, Plan.withoutValues, hrules]

/-- Paths with one lower case resolve to the same template with parameters of the same names, and a
slash behind a path that does not end in one changes not even their values; so requests for them are
planned with the same rules. -/
theorem plan?_pathVariants (index : Route.Index) (gate : Gate σ) (path : String) :
    (∀ other, Case.lower path = Case.lower other →
      (index.resolve? path).map Route.Resolution.withoutValues =
        (index.resolve? other).map Route.Resolution.withoutValues ∧
      ∀ method, (gate.plan? path method).map Plan.withoutValues =
        (gate.plan? other method).map Plan.withoutValues) ∧
    (path.toList.getLast? ≠ some '/' →
      index.resolve? (path ++ "/") = index.resolve? path ∧
      ∀ method, gate.plan? (path ++ "/") method = gate.plan? path method) := by
  constructor
  · intro other h
    refine ⟨Route.Index.map_withoutValues_resolve? h index, fun method => ?_⟩
    rw [map_withoutValues_plan?, map_withoutValues_plan?, Route.Index.map_withoutValues_resolve? h]
  · intro h
    exact ⟨Route.Index.resolve?_append_slash h index,
      plan?_eq_of_resolve?_eq (Route.Index.resolve?_append_slash h gate.compiled.routes)⟩

/-- A gate with a rule for the parameter of its only route. -/
def streets : Gate Unit where
  compiled :=
    ⟨RuleTable.empty.insert "/streets/:name" .get
        (some ⟨[], [], [("name", ⟨some "string", true, []⟩)], [], []⟩),
      Route.Index.ofList ["/streets/:name"], []⟩
  validator := ()
  mode := .failFast

/-- The hypotheses are satisfied by a path that ends in a capital sigma, and there is a plan for it. -/
theorem streets_plan?_pathVariants :
    Case.lower "/Streets/ΟΔΟΣ" = Case.lower "/streets/οδοΣ" ∧
    "/Streets/ΟΔΟΣ".toList.getLast? ≠ some '/' ∧
    (streets.compiled.routes.resolve? "/Streets/ΟΔΟΣ").map Route.Resolution.withoutValues =
      some ("/streets/:name", ["name"]) ∧
    (streets.plan? "/Streets/ΟΔΟΣ" "GET").isSome = true ∧
    (streets.plan? "/Streets/ΟΔΟΣ" "GET").map Plan.withoutValues =
      (streets.plan? "/streets/οδοΣ" "GET").map Plan.withoutValues ∧
    streets.plan? ("/Streets/ΟΔΟΣ" ++ "/") "GET" = streets.plan? "/Streets/ΟΔΟΣ" "GET" := by
  have hcase : Case.lower "/Streets/ΟΔΟΣ" = Case.lower "/streets/οδοΣ" := by decide +kernel
  have hslash : "/Streets/ΟΔΟΣ".toList.getLast? ≠ some '/' := by decide +kernel
  have h := plan?_pathVariants streets.compiled.routes streets "/Streets/ΟΔΟΣ"
  refine ⟨hcase, hslash, ?_, ?_, (h.1 _ hcase).2 "GET", (h.2 hslash).2 "GET"⟩
  · decide +kernel
  · decide +kernel

end Gate
end RequestGate
