import RequestGate.Proofs.Lowering
import RequestGate.Route.Index

/-!
# Resolution by the greatest template

An index resolves a path to the greatest of its templates that match the path.

Main results:

- Theorem `Route.Index.mem_templates_ofList`: an index holds the templates it is made of.
- Theorem `Route.Index.resolve?_isSome_of_fits`: a path that some template matches is resolved.
- Theorem `Route.Index.le_of_resolve?_eq_some`: no matching template is greater than the one that a
  path resolves to.
- Theorem `Route.Index.exists_resolve?_eq_some_iff`: a path resolves to a template exactly when that is
  the greatest of those that fit.
-/

namespace RequestGate
namespace Route

/-- Captures exist exactly for a template that fits, when both forms of the path have as many
segments. -/
theorem capture?_eq_some_iff {template : String} {lowered sent : List String}
    {captures : Captures} :
    capture? template lowered sent = some captures ↔
      (fits (templateSegments template) lowered = true ∧ lowered.length = sent.length) ∧
        Fields.ofList (named (templateSegments template) sent) = captures := by
  unfold capture?
  rw [Option.ite_none_right_eq_some, Option.some_inj, Bool.and_eq_true, decide_eq_true_eq]

namespace Index

theorem mem_templates_ofList {template : String} {templates : List String} :
    template ∈ (ofList templates).templates ↔ template ∈ templates := by
  induction templates with
  | nil => exact Iff.rfl
  | cons first rest ih =>
    have hinsert : (ofList (first :: rest)).templates =
        insertText first (ofList rest).templates := rfl
    rw [hinsert, mem_insertText, ih, List.mem_cons]

/-- A path that a template of the index fits is resolved. -/
theorem resolve?_isSome_of_fits {index : Index} {template path : String}
    (hmem : template ∈ index.templates)
    (hfits : fits (templateSegments template) (segments (Case.lower path)) = true) :
    (index.resolve? path).isSome = true := by
  have hcapture := capture?_eq_some_iff.2 ⟨⟨hfits, length_segments_lower path⟩, rfl⟩
  unfold resolve?
  rw [List.findSome?_isSome_iff]
  exact ⟨template, hmem, by rw [hcapture]; rfl⟩

/-- The template that a path resolves to belongs to the index and fits the path. -/
theorem fits_of_resolve?_eq_some {index : Index} {path : String} {resolution : Resolution}
    (h : index.resolve? path = some resolution) :
    resolution.template ∈ index.templates ∧
      fits (templateSegments resolution.template) (segments (Case.lower path)) = true := by
  unfold resolve? at h
  obtain ⟨template, hmem, hfound⟩ := List.exists_of_findSome?_eq_some h
  obtain ⟨captures, hcapture, rfl⟩ := Option.map_eq_some_iff.1 hfound
  exact ⟨hmem, (capture?_eq_some_iff.1 hcapture).1.1⟩

/-- Of the templates that fit a path, the one that it resolves to is the greatest. -/
theorem le_of_resolve?_eq_some {index : Index} {path template : String} {resolution : Resolution}
    (h : index.resolve? path = some resolution) (hmem : template ∈ index.templates)
    (hfits : fits (templateSegments template) (segments (Case.lower path)) = true) :
    template = resolution.template ∨ template < resolution.template := by
  have hcapture := capture?_eq_some_iff.2 ⟨⟨hfits, length_segments_lower path⟩, rfl⟩
  unfold resolve? at h
  obtain ⟨before, found, after, hsplit, hfound, hbefore⟩ := List.findSome?_eq_some_iff.1 h
  obtain ⟨captures, _, rfl⟩ := Option.map_eq_some_iff.1 hfound
  have hdescending := index.descending
  rw [hsplit] at hmem hdescending
  rcases List.mem_append.1 hmem with hearlier | hlater
  · have hnone := hbefore template hearlier
    rw [hcapture] at hnone
    cases hnone
  · rcases List.mem_cons.1 hlater with rfl | hlater
    · exact Or.inl rfl
    · have hparts := (List.pairwise_append.1 hdescending).2.1
      exact Or.inr ((List.pairwise_cons.1 hparts).1 template hlater)

/-- A path resolves to a template of the index exactly when the template fits it and no greater one
does. -/
theorem exists_resolve?_eq_some_iff {index : Index} {path template : String}
    (hmem : template ∈ index.templates) :
    (∃ captures, index.resolve? path = some ⟨template, captures⟩) ↔
      fits (templateSegments template) (segments (Case.lower path)) = true ∧
        ∀ other ∈ index.templates,
          fits (templateSegments other) (segments (Case.lower path)) = true → ¬ template < other := by
  constructor
  · rintro ⟨captures, hresolve⟩
    refine ⟨(fits_of_resolve?_eq_some hresolve).2, fun other hother hfits hlt => ?_⟩
    rcases le_of_resolve?_eq_some hresolve hother hfits with heq | hgt
    · rw [heq] at hlt
      exact String.lt_irrefl _ hlt
    · exact String.lt_irrefl _ (String.lt_trans hlt hgt)
  · rintro ⟨hfits, hgreatest⟩
    obtain ⟨⟨found, captures⟩, hresolve⟩ :=
      Option.isSome_iff_exists.1 (resolve?_isSome_of_fits hmem hfits)
    obtain ⟨hfound, hfoundFits⟩ := fits_of_resolve?_eq_some hresolve
    rcases le_of_resolve?_eq_some hresolve hmem hfits with heq | hlt
    · rw [heq]
      exact ⟨captures, hresolve⟩
    · exact absurd hlt (hgreatest found hfound hfoundFits)

end Index
end Route
end RequestGate
