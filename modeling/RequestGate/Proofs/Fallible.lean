import Mathlib.Data.List.Forall2

/-!
# Runs of steps that may fail

Readers, compilers and binders fold a step that may fail over a list.  What holds at the start and is
carried on by every step that succeeds holds at the end of a run that succeeds.

Main results:

- Theorem `Fallible.bind_eq_ok_iff`: a sequence of two computations succeeds when both do.
- Theorem `Fallible.foldlM_ok_induction`: an invariant of the elements done and the state reached.
- Theorem `Fallible.exists_foldlM_eq_ok_iff`: whether a run succeeds, where the state does not matter.
- Theorem `Fallible.alike_foldlM`: runs over related elements end alike, with one result or related errors.
- Theorem `Fallible.foldlM_eq_error_iff`: the error of a run is that of the first element that fails, where
  the state does not matter.
- Theorems `Fallible.exists_of_mapM_eq_ok`, `Fallible.forall₂_of_mapM_eq_some`: elements and results of a
  step that succeeds for all.
-/

namespace RequestGate
namespace Fallible

variable {α β ε : Type}

theorem bind_eq_ok_iff {first : Except ε α} {next : α → Except ε β} {result : β} :
    (first >>= next) = .ok result ↔ ∃ value, first = .ok value ∧ next value = .ok result := by
  cases first with
  | error e =>
    constructor
    · intro h
      exact absurd h (by simp [bind, Except.bind])
    · rintro ⟨value, hvalue, _⟩
      cases hvalue
  | ok value =>
    constructor
    · intro h
      exact ⟨value, rfl, h⟩
    · rintro ⟨other, hother, h⟩
      cases hother
      exact h

theorem bind_eq_error_iff {first : Except ε α} {next : α → Except ε β} {e : ε} :
    (first >>= next) = .error e ↔
      first = .error e ∨ ∃ value, first = .ok value ∧ next value = .error e := by
  cases first <;> simp [bind, Except.bind]

theorem map_eq_ok_iff {f : α → β} {computed : Except ε α} {result : β} :
    computed.map f = .ok result ↔ ∃ value, computed = .ok value ∧ f value = result := by
  cases computed with
  | error e => simp [Except.map]
  | ok value => simp [Except.map]

theorem map_eq_error_iff {f : α → β} {computed : Except ε α} {e : ε} :
    computed.map f = .error e ↔ computed = .error e := by
  cases computed <;> simp [Except.map]

/-- The run lemma: `motive done state` holds of the elements done so far and the state after
them. -/
theorem foldlM_ok_induction {step : β → α → Except ε β} {motive : List α → β → Prop} {start : β}
    (hstart : motive [] start)
    (hstep : ∀ done state item next, motive done state → step state item = .ok next →
      motive (done ++ [item]) next)
    {items : List α} {result : β} (h : items.foldlM step start = .ok result) :
    motive items result := by
  -- The induction is on the elements still to come; those done grow with it.
  have hrun : ∀ (rest done : List α) (state : β), motive done state →
      rest.foldlM step state = .ok result → motive (done ++ rest) result := by
    intro rest
    induction rest with
    | nil =>
      intro done state hdone hrest
      cases hrest
      rw [List.append_nil]
      exact hdone
    | cons item rest ih =>
      intro done state hdone hrest
      rw [List.foldlM_cons] at hrest
      obtain ⟨next, hnext, hrest⟩ := bind_eq_ok_iff.1 hrest
      have hmore := ih (done ++ [item]) next (hstep done state item next hdone hnext) hrest
      rwa [List.append_assoc, List.singleton_append] at hmore
  have hall := hrun items [] start hstart h
  rwa [List.nil_append] at hall

/-- Where a step succeeds for an element whatever the state, a run succeeds exactly when every element
lets its step succeed. -/
theorem exists_foldlM_eq_ok_iff {step : β → α → Except ε β} {succeeds : α → Prop} {items : List α}
    (hstep : ∀ state, ∀ item ∈ items, (∃ next, step state item = .ok next) ↔ succeeds item)
    (start : β) :
    (∃ result, items.foldlM step start = .ok result) ↔ ∀ item ∈ items, succeeds item := by
  induction items generalizing start with
  | nil => exact iff_of_true ⟨start, rfl⟩ fun _ hmem => absurd hmem List.not_mem_nil
  | cons item rest ih =>
    have hrest := ih fun state other hother => hstep state other (List.mem_cons_of_mem _ hother)
    simp only [List.foldlM_cons, bind_eq_ok_iff, List.forall_mem_cons]
    rw [← hstep start item List.mem_cons_self]
    constructor
    · rintro ⟨result, next, hnext, hresult⟩
      exact ⟨⟨next, hnext⟩, (hrest next).1 ⟨result, hresult⟩⟩
    · rintro ⟨⟨next, hnext⟩, hall⟩
      obtain ⟨result, hresult⟩ := (hrest next).2 hall
      exact ⟨result, next, hnext, hresult⟩

/-! ## Computations that end alike -/

/-- Two computations give the same value, or they fail with related errors. -/
inductive Alike (related : ε → ε → Prop) : Except ε α → Except ε α → Prop
  | ok (value : α) : Alike related (.ok value) (.ok value)
  | error {first second : ε} (h : related first second) :
    Alike related (.error first) (.error second)

section Alike

variable {related : ε → ε → Prop} {first second : Except ε α}

theorem Alike.refl (hrefl : ∀ e, related e e) (computed : Except ε α) :
    Alike related computed computed := by
  cases computed with
  | ok value => exact .ok value
  | error e => exact .error (hrefl e)

/-- Computations that end alike are the same where related errors are. -/
theorem Alike.eq (h : Alike related first second) (heq : ∀ e other, related e other → e = other) :
    first = second := by
  cases h with
  | ok value => rfl
  | error h => rw [heq _ _ h]

theorem Alike.bind {next other : α → Except ε β} (h : Alike related first second)
    (hnext : ∀ value, Alike related (next value) (other value)) :
    Alike related (first >>= next) (second >>= other) := by
  cases h with
  | ok value => exact hnext value
  | error h => exact .error h

theorem Alike.map (h : Alike related first second) (f : α → β) :
    Alike related (first.map f) (second.map f) := by
  cases h with
  | ok value => exact .ok (f value)
  | error h => exact .error h

/-- Where related elements let two steps end alike from any state, runs over related elements end
alike. -/
theorem alike_foldlM {step other : β → α → Except ε β} {pair : α → α → Prop}
    (hstep : ∀ state a b, pair a b → Alike related (step state a) (other state b))
    {items others : List α} (h : List.Forall₂ pair items others) (start : β) :
    Alike related (items.foldlM step start) (others.foldlM other start) := by
  induction h generalizing start with
  | nil => exact .ok start
  | cons hhead _ ih =>
    rw [List.foldlM_cons, List.foldlM_cons]
    exact (hstep start _ _ hhead).bind ih

end Alike

/-! ## The first failure -/

/-- An element fails with an error, and those before it do not fail. -/
def FailsFirst (fails : α → ε → Prop) (items : List α) (e : ε) : Prop :=
  ∃ before item after, items = before ++ item :: after ∧
    (∀ earlier ∈ before, ∀ other, ¬ fails earlier other) ∧ fails item e

section FailsFirst

variable {fails : α → ε → Prop} {items : List α} {e : ε}

theorem not_failsFirst_nil : ¬ FailsFirst fails [] e := by
  rintro ⟨before, item, after, hitems, _⟩
  exact List.append_ne_nil_of_right_ne_nil before (List.cons_ne_nil item after) hitems.symm

theorem failsFirst_cons {item : α} {rest : List α} : FailsFirst fails (item :: rest) e ↔
    fails item e ∨ (∀ other, ¬ fails item other) ∧ FailsFirst fails rest e := by
  constructor
  · rintro ⟨before, found, after, hitems, hbefore, hfound⟩
    cases before with
    | nil =>
      cases hitems
      exact Or.inl hfound
    | cons first before =>
      cases hitems
      rw [List.forall_mem_cons] at hbefore
      exact Or.inr ⟨hbefore.1, before, found, after, rfl, hbefore.2, hfound⟩
  · rintro (hitem | ⟨hitem, before, found, after, rfl, hbefore, hfound⟩)
    · exact ⟨[], item, rest, rfl, fun _ hmem => absurd hmem List.not_mem_nil, hitem⟩
    · exact ⟨item :: before, found, after, rfl, List.forall_mem_cons.2 ⟨hitem, hbefore⟩, hfound⟩

/-- Where an element fails there is a first one. -/
theorem exists_failsFirst_iff :
    (∃ e, FailsFirst fails items e) ↔ ∃ item ∈ items, ∃ e, fails item e := by
  constructor
  · rintro ⟨e, before, item, after, rfl, _, hitem⟩
    exact ⟨item, List.mem_append_right before List.mem_cons_self, e, hitem⟩
  · rintro ⟨found, hfound, hfails⟩
    induction items with
    | nil => exact absurd hfound List.not_mem_nil
    | cons item rest ih =>
      by_cases hitem : ∃ e, fails item e
      · obtain ⟨e, hitem⟩ := hitem
        exact ⟨e, failsFirst_cons.2 (Or.inl hitem)⟩
      · rcases List.mem_cons.1 hfound with rfl | hrest
        · exact absurd hfails hitem
        · obtain ⟨e, hfirst⟩ := ih hrest
          exact ⟨e, failsFirst_cons.2 (Or.inr ⟨not_exists.1 hitem, hfirst⟩)⟩

theorem failsFirst_append {first second : List α} : FailsFirst fails (first ++ second) e ↔
    FailsFirst fails first e ∨
      (∀ item ∈ first, ∀ other, ¬ fails item other) ∧ FailsFirst fails second e := by
  induction first with
  | nil => simp [not_failsFirst_nil]
  | cons item rest ih =>
    rw [List.cons_append, failsFirst_cons, failsFirst_cons, ih, List.forall_mem_cons]
    constructor
    · rintro (hitem | ⟨hitem, hrest | ⟨hrest, hsecond⟩⟩)
      · exact Or.inl (Or.inl hitem)
      · exact Or.inl (Or.inr ⟨hitem, hrest⟩)
      · exact Or.inr ⟨⟨hitem, hrest⟩, hsecond⟩
    · rintro ((hitem | ⟨hitem, hrest⟩) | ⟨⟨hitem, hrest⟩, hsecond⟩)
      · exact Or.inl hitem
      · exact Or.inr ⟨hitem, Or.inl hrest⟩
      · exact Or.inr ⟨hitem, Or.inr ⟨hrest, hsecond⟩⟩

theorem failsFirst_map {f : β → α} {items : List β} :
    FailsFirst fails (items.map f) e ↔ FailsFirst (fun item => fails (f item)) items e := by
  induction items with
  | nil => exact iff_of_false not_failsFirst_nil not_failsFirst_nil
  | cons item rest ih => rw [List.map_cons, failsFirst_cons, failsFirst_cons, ih]

/-- The first failure of a run of runs is that of all their elements one after another. -/
theorem failsFirst_flatMap {f : β → List α} {items : List β} :
    FailsFirst fails (items.flatMap f) e ↔
      FailsFirst (fun item => FailsFirst fails (f item)) items e := by
  induction items with
  | nil => exact iff_of_false not_failsFirst_nil not_failsFirst_nil
  | cons item rest ih =>
    have hsome : (∃ other, FailsFirst fails (f item) other) ↔
        ∃ element ∈ f item, ∃ other, fails element other := exists_failsFirst_iff
    have hnone : (∀ other, ¬ FailsFirst fails (f item) other) ↔
        ∀ element ∈ f item, ∀ other, ¬ fails element other := by
      simpa using not_congr hsome
    rw [List.flatMap_cons, failsFirst_append, failsFirst_cons, ih, hnone]

/-- Errors may be wrapped before or after the first one is taken. -/
theorem failsFirst_wrapped {δ : Type} {wrap : ε → δ} {wrapped : α → δ → Prop} {d : δ}
    (h : ∀ item d, wrapped item d ↔ ∃ e, fails item e ∧ wrap e = d) :
    FailsFirst wrapped items d ↔ ∃ e, FailsFirst fails items e ∧ wrap e = d := by
  constructor
  · rintro ⟨before, item, after, hitems, hbefore, hitem⟩
    obtain ⟨e, hitem, hwrap⟩ := (h item d).1 hitem
    refine ⟨e, ⟨before, item, after, hitems, fun earlier hearlier other hother => ?_, hitem⟩, hwrap⟩
    exact hbefore earlier hearlier (wrap other) ((h _ _).2 ⟨other, hother, rfl⟩)
  · rintro ⟨e, ⟨before, item, after, hitems, hbefore, hitem⟩, hwrap⟩
    refine ⟨before, item, after, hitems, fun earlier hearlier _ hother => ?_,
      (h item d).2 ⟨e, hitem, hwrap⟩⟩
    obtain ⟨other, hother, _⟩ := (h _ _).1 hother
    exact hbefore earlier hearlier other hother

/-- Where a step fails for an element in one way whatever the state, a run fails with the error of the
first element that fails. -/
theorem foldlM_eq_error_iff {step : β → α → Except ε β}
    (hstep : ∀ state, ∀ item ∈ items, ∀ e, step state item = .error e ↔ fails item e) (start : β) :
    items.foldlM step start = .error e ↔ FailsFirst fails items e := by
  induction items generalizing start with
  | nil => exact iff_of_false nofun not_failsFirst_nil
  | cons item rest ih =>
    have hitem := hstep start item List.mem_cons_self
    have hrest := ih fun state other hother => hstep state other (List.mem_cons_of_mem _ hother)
    rw [List.foldlM_cons, bind_eq_error_iff, failsFirst_cons, hitem]
    refine or_congr_right ?_
    constructor
    · rintro ⟨next, hnext, herror⟩
      refine ⟨fun other hother => ?_, (hrest next).1 herror⟩
      rw [(hitem other).2 hother] at hnext
      cases hnext
    · rintro ⟨hnone, hfirst⟩
      cases hnext : step start item with
      | error other => exact absurd ((hitem other).1 hnext) (hnone other)
      | ok next => exact ⟨next, rfl, (hrest next).2 hfirst⟩

end FailsFirst

/-! ## One step for every element -/

/-- Every element has a result among the results, and every result is that of an element. -/
theorem exists_of_mapM_eq_ok {f : α → Except ε β} {items : List α} {results : List β}
    (h : items.mapM f = .ok results) :
    (∀ item ∈ items, ∃ result ∈ results, f item = .ok result) ∧
      ∀ result ∈ results, ∃ item ∈ items, f item = .ok result := by
  induction items generalizing results with
  | nil =>
    cases h
    exact ⟨fun _ hmem => absurd hmem List.not_mem_nil, fun _ hmem => absurd hmem List.not_mem_nil⟩
  | cons item rest ih =>
    rw [List.mapM_cons] at h
    obtain ⟨first, hfirst, h⟩ := bind_eq_ok_iff.1 h
    obtain ⟨others, hothers, h⟩ := bind_eq_ok_iff.1 h
    cases h
    obtain ⟨hitems, hresults⟩ := ih hothers
    constructor
    · refine List.forall_mem_cons.2 ⟨⟨first, List.mem_cons_self, hfirst⟩, fun other hother => ?_⟩
      obtain ⟨result, hresult, hother⟩ := hitems other hother
      exact ⟨result, List.mem_cons_of_mem _ hresult, hother⟩
    · refine List.forall_mem_cons.2 ⟨⟨item, List.mem_cons_self, hfirst⟩, fun result hresult => ?_⟩
      obtain ⟨other, hother, hresult⟩ := hresults result hresult
      exact ⟨other, List.mem_cons_of_mem _ hother, hresult⟩

/-- What fails for some element fails with an error of an element. -/
theorem exists_of_mapM_eq_error {f : α → Except ε β} {items : List α} {e : ε}
    (h : items.mapM f = .error e) : ∃ item ∈ items, f item = .error e := by
  induction items with
  | nil => cases h
  | cons item rest ih =>
    rw [List.mapM_cons] at h
    cases hfirst : f item with
    | error other =>
      rw [hfirst] at h
      cases h
      exact ⟨item, List.mem_cons_self, hfirst⟩
    | ok first =>
      rw [hfirst] at h
      cases hothers : rest.mapM f with
      | error other =>
        have hsame : other = e := by
          simpa [hothers, bind, Except.bind] using h
        obtain ⟨found, hfound, hother⟩ := ih (hsame ▸ hothers)
        exact ⟨found, List.mem_cons_of_mem _ hfound, hother⟩
      | ok others => simp [hothers, bind, Except.bind, pure, Except.pure] at h

/-- A step that succeeds for all elements gives their results in their places. -/
theorem forall₂_of_mapM_eq_some {f : α → Option β} {items : List α} {results : List β}
    (h : items.mapM f = some results) :
    List.Forall₂ (fun item result => f item = some result) items results := by
  induction items generalizing results with
  | nil =>
    cases h
    exact .nil
  | cons item rest ih =>
    rw [List.mapM_cons] at h
    obtain ⟨result, hresult, h⟩ := Option.bind_eq_some_iff.1 h
    obtain ⟨others, hothers, h⟩ := Option.bind_eq_some_iff.1 h
    cases h
    exact .cons hresult (ih hothers)

theorem exists_of_mem_forall₂ {related : α → β → Prop} {items : List α} {results : List β}
    (h : List.Forall₂ related items results) {result : β} (hmem : result ∈ results) :
    ∃ item ∈ items, related item result := by
  induction h with
  | nil => exact absurd hmem List.not_mem_nil
  | cons hfirst _ ih =>
    rcases List.mem_cons.1 hmem with rfl | hmem
    · exact ⟨_, List.mem_cons_self, hfirst⟩
    · obtain ⟨item, hitem, hrelated⟩ := ih hmem
      exact ⟨item, List.mem_cons_of_mem _ hitem, hrelated⟩

/-- Lists of elements that give the same one by one give the same. -/
theorem map_eq_map_of_forall₂ {γ : Type} {f : α → γ} {g : β → γ} {items : List α} {others : List β}
    (h : List.Forall₂ (fun item other => f item = g other) items others) :
    items.map f = others.map g := by
  have hmap := List.forall₂_map_left_iff.2 (List.forall₂_map_right_iff.2 h)
  rwa [List.forall₂_eq_eq_eq] at hmap

/-- What leaves every element as it is leaves the list as it is. -/
theorem mapM_eq_self {f : α → Except ε α} {items : List α} (h : ∀ item ∈ items, f item = .ok item) :
    items.mapM f = .ok items := by
  induction items with
  | nil => rfl
  | cons item rest ih =>
    obtain ⟨hitem, hrest⟩ := List.forall_mem_cons.1 h
    rw [List.mapM_cons, hitem, ih hrest]
    rfl

end Fallible
end RequestGate
