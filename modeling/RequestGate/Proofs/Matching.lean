import Mathlib.Data.List.Pairwise
import Mathlib.Tactic.Tauto
import RequestGate.Pattern.Basic

/-!
# What the matcher finds

A pattern describes the parts of a text between two positions.  The matcher maps all positions where a
part may start to those where it may end; repetition is a search in breadth that leaves out what it has
reached before.  A repetition without an upper bound never needs more steps than the text has characters,
since a step that stays where it is can be left out.

Main results:

- Theorem `Pattern.Computes.reachWithin`: the positions that a search of some depth reaches.
- Theorem `Pattern.computes_ends`: the matcher finds the ends of the parts that a pattern describes.
- Theorem `Pattern.isMatch_iff`: a text matches when the pattern describes some part of it.
- Theorem `Pattern.isMatch_whole_iff`: a pattern for whole texts describes all of a text.
-/

namespace RequestGate
namespace Pattern

/-! ## Sets of positions -/

/-- A set of positions as the matcher keeps it. -/
def Descending (positions : List Nat) : Prop :=
  positions.Pairwise (· > ·)

theorem mem_mergeOnto {taken xs ys : List Nat} {i : Nat} :
    i ∈ mergeOnto taken xs ys ↔ i ∈ taken ∨ i ∈ xs ∨ i ∈ ys := by
  fun_induction mergeOnto taken xs ys with
  | case1 taken ys => simp
  | case2 taken xs hxs => simp
  | case3 taken xs y ys ih =>
    rw [ih]
    simp only [List.mem_cons]
    tauto
  | case4 taken x xs y ys hne hlt ih =>
    rw [ih]
    simp only [List.mem_cons]
    tauto
  | case5 taken x xs y ys hne hle ih =>
    rw [ih]
    simp only [List.mem_cons]
    tauto

/-- The union has the elements of both sets. -/
theorem mem_merge {xs ys : List Nat} {i : Nat} : i ∈ merge xs ys ↔ i ∈ xs ∨ i ∈ ys := by
  simp [merge, mem_mergeOnto]

/-- What is taken next is above all that is left. -/
theorem descending_mergeOnto {taken xs ys : List Nat} (hxs : Descending (taken.reverse ++ xs))
    (hys : Descending (taken.reverse ++ ys)) : Descending (mergeOnto taken xs ys) := by
  fun_induction mergeOnto taken xs ys with
  | case1 taken ys => simpa using hys
  | case2 taken xs hxs' => simpa using hxs
  | case3 taken xs y ys ih =>
    apply ih
    · simpa using hxs
    · simpa using hys
  | case4 taken x xs y ys hne hlt ih =>
    apply ih
    · simpa using hxs
    · simp only [Descending, List.reverse_cons, List.pairwise_append, List.pairwise_cons,
        List.mem_append, List.mem_cons] at hxs hys ⊢
      grind
  | case5 taken x xs y ys hne hle ih =>
    apply ih
    · simp only [Descending, List.reverse_cons, List.pairwise_append, List.pairwise_cons,
        List.mem_append, List.mem_cons] at hxs hys ⊢
      grind
    · simpa using hys

theorem descending_merge {xs ys : List Nat} (hxs : Descending xs) (hys : Descending ys) :
    Descending (merge xs ys) :=
  descending_mergeOnto hxs hys

theorem mem_minusOnto {taken xs ys : List Nat} (hxs : Descending xs) (hys : Descending ys) {i : Nat} :
    i ∈ minusOnto taken xs ys ↔ i ∈ taken ∨ (i ∈ xs ∧ i ∉ ys) := by
  fun_induction minusOnto taken xs ys with
  | case1 taken ys => simp
  | case2 taken xs hxs' => simp
  | case3 taken xs y ys ih =>
    have hx := List.pairwise_cons.1 hxs
    have hy := List.pairwise_cons.1 hys
    rw [ih hx.2 hy.2]
    simp only [List.mem_cons]
    grind
  | case4 taken x xs y ys hne hlt ih =>
    have hx := List.pairwise_cons.1 hxs
    have hy := List.pairwise_cons.1 hys
    rw [ih hx.2 hys]
    simp only [List.mem_cons]
    grind
  | case5 taken x xs y ys hne hle ih =>
    have hx := List.pairwise_cons.1 hxs
    have hy := List.pairwise_cons.1 hys
    rw [ih hxs hy.2]
    simp only [List.mem_cons]
    grind

/-- The difference has the elements of the first set that the second does not have. -/
theorem mem_minus {xs ys : List Nat} (hxs : Descending xs) (hys : Descending ys) {i : Nat} :
    i ∈ minus xs ys ↔ i ∈ xs ∧ i ∉ ys := by
  simp [minus, mem_minusOnto hxs hys]

theorem descending_minusOnto {taken xs ys : List Nat} (h : Descending (taken.reverse ++ xs)) :
    Descending (minusOnto taken xs ys) := by
  fun_induction minusOnto taken xs ys with
  | case1 taken ys => simpa using h
  | case2 taken xs hxs' => simpa using h
  | case3 taken xs y ys ih =>
    apply ih
    exact h.sublist (List.Sublist.append_left (List.sublist_cons_self _ _) _)
  | case4 taken x xs y ys hne hlt ih =>
    apply ih
    simpa using h
  | case5 taken x xs y ys hne hle ih => exact ih h

theorem descending_minus {xs : List Nat} (hxs : Descending xs) (ys : List Nat) :
    Descending (minus xs ys) :=
  descending_minusOnto hxs

/-! ## Steps -/

/-- A number of steps of a relation leads from one position to another. -/
def Steps (R : Nat → Nat → Prop) : Nat → Nat → Nat → Prop
  | 0, i, j => j = i
  | n + 1, i, j => ∃ k, R i k ∧ Steps R n k j

variable {R : Nat → Nat → Prop}

theorem steps_add {m n i j : Nat} : Steps R (m + n) i j ↔ ∃ k, Steps R m i k ∧ Steps R n k j := by
  induction m generalizing i with
  | zero => simp [Steps]
  | succ m ih =>
    rw [Nat.succ_add]
    constructor
    · rintro ⟨k, hk, hrest⟩
      obtain ⟨l, hl, hlast⟩ := ih.1 hrest
      exact ⟨l, ⟨k, hk, hl⟩, hlast⟩
    · rintro ⟨l, ⟨k, hk, hl⟩, hlast⟩
      exact ⟨k, hk, ih.2 ⟨l, hl, hlast⟩⟩

/-- What every step preserves holds at the end. -/
theorem Steps.preserves {P : Nat → Prop} (hR : ∀ i j, R i j → P i → P j) {n i j : Nat}
    (h : Steps R n i j) (hi : P i) : P j := by
  induction n generalizing i with
  | zero =>
    obtain rfl : j = i := h
    exact hi
  | succ n ih =>
    obtain ⟨k, hk, hrest⟩ := h
    exact ih hrest (hR i k hk hi)

theorem Steps.le (hR : ∀ i j, R i j → i ≤ j) {n i j : Nat} (h : Steps R n i j) : i ≤ j :=
  h.preserves (fun k l hkl hk => Nat.le_trans hk (hR k l hkl)) (Nat.le_refl i)

/-- Steps that leave a range only by staying where they are stay in it. -/
theorem Steps.bounds {size : Nat} (hR : ∀ i j, R i j → i ≤ j ∧ j ≤ max i size) {n i j : Nat}
    (h : Steps R n i j) : i ≤ j ∧ j ≤ max i size := by
  refine ⟨h.le fun k l hkl => (hR k l hkl).1, ?_⟩
  refine h.preserves (fun k l hkl (hk : k ≤ max i size) => ?_) (Nat.le_max_left i size)
  have hl := (hR k l hkl).2
  omega

/-- Without the steps that stay where they are, there are no more steps than positions on the way. -/
theorem Steps.shorten (hR : ∀ i j, R i j → i ≤ j) {n i j : Nat} (h : Steps R n i j) :
    ∃ m, m ≤ j - i ∧ m ≤ n ∧ Steps R m i j := by
  induction n generalizing i with
  | zero => exact ⟨0, Nat.zero_le _, Nat.le_refl _, h⟩
  | succ n ih =>
    obtain ⟨k, hk, hrest⟩ := h
    obtain ⟨m, hlength, hle, hsteps⟩ := ih hrest
    have hforward := hR i k hk
    have hbound := hsteps.le hR
    by_cases hstay : k = i
    · subst hstay
      exact ⟨m, hlength, by omega, hsteps⟩
    · exact ⟨m + 1, by omega, by omega, k, hk, hsteps⟩

/-- A function on sets of positions takes the steps of a relation. -/
structure Computes (step : List Nat → List Nat) (R : Nat → Nat → Prop) : Prop where
  descending : ∀ {starts}, Descending starts → Descending (step starts)
  mem : ∀ {starts}, Descending starts → ∀ {j}, j ∈ step starts ↔ ∃ i ∈ starts, R i j

namespace Computes

variable {step : List Nat → List Nat}

/-- Steps of one relation and then of another. -/
theorem comp {second : List Nat → List Nat} {S : Nat → Nat → Prop} (h : Computes step R)
    (hsecond : Computes second S) :
    Computes (fun starts => second (step starts)) fun i j => ∃ k, R i k ∧ S k j := by
  refine ⟨fun hstarts => hsecond.descending (h.descending hstarts), fun hstarts j => ?_⟩
  rw [hsecond.mem (h.descending hstarts)]
  constructor
  · rintro ⟨k, hk, hS⟩
    obtain ⟨i, hi, hR⟩ := (h.mem hstarts).1 hk
    exact ⟨i, hi, k, hR, hS⟩
  · rintro ⟨i, hi, k, hR, hS⟩
    exact ⟨k, (h.mem hstarts).2 ⟨i, hi, hR⟩, hS⟩

/-- Steps of either relation. -/
theorem union {second : List Nat → List Nat} {S : Nat → Nat → Prop} (h : Computes step R)
    (hsecond : Computes second S) :
    Computes (fun starts => merge (step starts) (second starts)) fun i j => R i j ∨ S i j := by
  refine ⟨fun hstarts => descending_merge (h.descending hstarts) (hsecond.descending hstarts),
    fun hstarts j => ?_⟩
  rw [mem_merge, h.mem hstarts, hsecond.mem hstarts]
  simp only [and_or_left, exists_or]

theorem times (h : Computes step R) (n : Nat) : Computes (times step n) (Steps R n) := by
  induction n with
  | zero =>
    refine ⟨id, fun hstarts j => ?_⟩
    simp [Pattern.times, Steps]
  | succ n ih =>
    have hall := h.comp ih
    constructor
    · intro starts hstarts
      unfold Pattern.times
      split
      case isTrue => exact List.Pairwise.nil
      case isFalse => exact hall.descending hstarts
    · intro starts hstarts j
      unfold Pattern.times
      split
      case isTrue hnil => simp [hnil]
      case isFalse => exact hall.mem hstarts

/-- A position is reached already, or within a number of steps from the newest of the positions. -/
def Reaches (R : Nat → Nat → Prop) (n : Nat) (reached newest : List Nat) (j : Nat) : Prop :=
  j ∈ reached ∨ ∃ m ≤ n, ∃ i ∈ newest, Steps R m i j

/-- Only the newest of the positions reached have steps to positions that are not reached. -/
structure IsFrontier (R : Nat → Nat → Prop) (reached newest : List Nat) : Prop where
  reached_descending : Descending reached
  newest_descending : Descending newest
  subset : ∀ i ∈ newest, i ∈ reached
  closed : ∀ i ∈ reached, i ∉ newest → ∀ j, R i j → j ∈ reached

namespace IsFrontier

variable {reached newest : List Nat}

theorem mem_next (h : Computes step R) (hfrontier : IsFrontier R reached newest) {k : Nat} :
    k ∈ minus (step newest) reached ↔ (∃ i ∈ newest, R i k) ∧ k ∉ reached := by
  rw [mem_minus (h.descending hfrontier.newest_descending) hfrontier.reached_descending,
    h.mem hfrontier.newest_descending]

/-- The positions after one more step that are not reached yet are the next frontier. -/
theorem next (h : Computes step R) (hfrontier : IsFrontier R reached newest) :
    IsFrontier R (merge (minus (step newest) reached) reached) (minus (step newest) reached) := by
  have hnext := descending_minus (h.descending hfrontier.newest_descending) reached
  refine ⟨descending_merge hnext hfrontier.reached_descending, hnext,
    fun i hi => mem_merge.2 (Or.inl hi), fun i hi hold j hR => ?_⟩
  rw [mem_merge] at hi ⊢
  rcases hi with hi | hi
  · exact absurd hi hold
  · by_cases hj : j ∈ reached
    · exact Or.inr hj
    · by_cases hnew : i ∈ newest
      · exact Or.inl ((hfrontier.mem_next h).2 ⟨⟨i, hnew, hR⟩, hj⟩)
      · exact absurd (hfrontier.closed i hi hnew j hR) hj

/-- Steps from a position that is reached lead to such a position or cross the next frontier. -/
theorem crosses (h : Computes step R) (hfrontier : IsFrontier R reached newest) {n i j : Nat}
    (hi : i ∈ reached) (hsteps : Steps R n i j) :
    j ∈ reached ∨ ∃ m < n, ∃ k ∈ minus (step newest) reached, Steps R m k j := by
  induction n generalizing i with
  | zero =>
    obtain rfl : j = i := hsteps
    exact Or.inl hi
  | succ n ih =>
    obtain ⟨k, hR, hrest⟩ := hsteps
    by_cases hk : k ∈ reached
    · rcases ih hk hrest with hj | ⟨m, hm, hcross⟩
      · exact Or.inl hj
      · exact Or.inr ⟨m, by omega, hcross⟩
    · have hnew : i ∈ newest := by
        by_contra hold
        exact hk (hfrontier.closed i hi hold k hR)
      exact Or.inr ⟨n, Nat.lt_succ_self n, k, (hfrontier.mem_next h).2 ⟨⟨i, hnew, hR⟩, hk⟩, hrest⟩

/-- One step deeper, the search goes on from the next frontier. -/
theorem reaches_succ_iff (h : Computes step R) (hfrontier : IsFrontier R reached newest) {n j : Nat} :
    Reaches R (n + 1) reached newest j ↔
      Reaches R n (merge (minus (step newest) reached) reached) (minus (step newest) reached) j := by
  unfold Reaches
  rw [mem_merge]
  constructor
  · rintro (hj | ⟨m, hm, i, hi, hsteps⟩)
    · exact Or.inl (Or.inr hj)
    · rcases hfrontier.crosses h (hfrontier.subset i hi) hsteps with hj | ⟨l, hl, k, hk, hrest⟩
      · exact Or.inl (Or.inr hj)
      · exact Or.inr ⟨l, by omega, k, hk, hrest⟩
  · rintro ((hj | hj) | ⟨m, hm, k, hk, hsteps⟩)
    · obtain ⟨⟨i, hi, hR⟩, _⟩ := (hfrontier.mem_next h).1 hj
      exact Or.inr ⟨1, by omega, i, hi, j, hR, rfl⟩
    · exact Or.inl hj
    · obtain ⟨⟨i, hi, hR⟩, _⟩ := (hfrontier.mem_next h).1 hk
      exact Or.inr ⟨m + 1, by omega, i, hi, k, hR, hsteps⟩

end IsFrontier

/-- A search of some depth reaches what so many steps from the frontier reach. -/
theorem reachWithin (h : Computes step R) (n : Nat) {reached newest : List Nat}
    (hfrontier : IsFrontier R reached newest) :
    Descending (reachWithin step n reached newest) ∧
      ∀ j, j ∈ reachWithin step n reached newest ↔ Reaches R n reached newest j := by
  induction n generalizing reached newest with
  | zero =>
    refine ⟨hfrontier.reached_descending, fun j => ⟨Or.inl, ?_⟩⟩
    rintro (hj | ⟨m, hm, i, hi, hsteps⟩)
    · exact hj
    · obtain rfl : m = 0 := Nat.le_zero.1 hm
      obtain rfl : j = i := hsteps
      exact hfrontier.subset j hi
  | succ n ih =>
    simp only [hfrontier.reaches_succ_iff h]
    cases hnext : minus (step newest) reached with
    | nil =>
      have hstop : Pattern.reachWithin step (n + 1) reached newest = reached := by
        unfold Pattern.reachWithin
        rw [hnext]
      rw [hstop]
      refine ⟨hfrontier.reached_descending, fun j => ?_⟩
      simp [Reaches, mem_merge]
    | cons first rest =>
      have hstep : Pattern.reachWithin step (n + 1) reached newest =
          Pattern.reachWithin step n (merge (first :: rest) reached) (first :: rest) := by
        simp only [Pattern.reachWithin, hnext]
      have hdeeper := hfrontier.next h
      rw [hnext] at hdeeper
      rw [hstep]
      exact ih hdeeper

/-- A search from a set of positions reaches what so many steps from them reach. -/
theorem search (h : Computes step R) (n : Nat) :
    Computes (fun starts => Pattern.reachWithin step n starts starts)
      fun i j => ∃ m ≤ n, Steps R m i j := by
  have hfrontier : ∀ {starts}, Descending starts → IsFrontier R starts starts := fun hstarts =>
    ⟨hstarts, hstarts, fun _ hi => hi, fun i hi hold => absurd hi hold⟩
  constructor
  · intro starts hstarts
    exact (h.reachWithin n (hfrontier hstarts)).1
  · intro starts hstarts j
    rw [(h.reachWithin n (hfrontier hstarts)).2]
    constructor
    · rintro (hj | ⟨m, hm, i, hi, hsteps⟩)
      · exact ⟨j, hj, 0, Nat.zero_le n, rfl⟩
      · exact ⟨i, hi, m, hm, hsteps⟩
    · rintro ⟨i, hi, m, hm, hsteps⟩
      exact Or.inr ⟨m, hm, i, hi, hsteps⟩

/-- A number of steps and then a search reach what numbers of steps in an interval reach. -/
theorem between (h : Computes step R) (least more : Nat) :
    Computes (fun starts =>
      Pattern.reachWithin step more (Pattern.times step least starts) (Pattern.times step least starts))
      fun i j => ∃ n, least ≤ n ∧ n ≤ least + more ∧ Steps R n i j := by
  have hall := (h.times least).comp (h.search more)
  refine ⟨hall.descending, fun hstarts j => (hall.mem hstarts).trans ?_⟩
  refine exists_congr fun i => and_congr_right fun _ => ?_
  constructor
  · rintro ⟨k, hleast, m, hm, hmore⟩
    exact ⟨least + m, by omega, by omega, steps_add.2 ⟨k, hleast, hmore⟩⟩
  · rintro ⟨n, hleast, hmost, hsteps⟩
    obtain ⟨m, rfl⟩ := Nat.exists_eq_add_of_le hleast
    obtain ⟨k, hk, hmore⟩ := steps_add.1 hsteps
    exact ⟨k, hk, m, by omega, hmore⟩

/-- Relations that hold for the same positions are computed alike. -/
theorem congr {S : Nat → Nat → Prop} (h : Computes step R) (hRS : ∀ i j, R i j ↔ S i j) :
    Computes step S := by
  refine ⟨h.descending, fun hstarts j => (h.mem hstarts).trans ?_⟩
  exact exists_congr fun i => and_congr_right fun _ => hRS i j

end Computes

/-! ## Parts of a text -/

/-- A pattern describes the part of a text between two positions. -/
def Spans (text : Array Char) : Pattern → Nat → Nat → Prop
  | .empty, i, j => j = i
  | .one set, i, j => j = i + 1 ∧ ∃ c, text[i]? = some c ∧ set.contains c = true
  | .condition c, i, j => j = i ∧ c.holds text i = true
  | .sequence first second, i, j => ∃ k, first.Spans text i k ∧ second.Spans text k j
  | .choice first second, i, j => first.Spans text i j ∨ second.Spans text i j
  | .repeated least most body, i, j =>
    ∃ n, least ≤ n ∧ (∀ m ∈ most, n ≤ max least m) ∧ Steps (body.Spans text) n i j

variable {text : Array Char}

/-- A part starts before it ends, and it ends in the text unless it is empty. -/
theorem Spans.bounds {pattern : Pattern} {i j : Nat} (h : pattern.Spans text i j) :
    i ≤ j ∧ j ≤ max i text.size := by
  induction pattern generalizing i j with
  | empty =>
    obtain rfl : j = i := h
    omega
  | one set =>
    obtain ⟨rfl, c, hc, _⟩ := h
    have hi : i < text.size := (Array.getElem?_eq_some_iff.1 hc).1
    omega
  | condition c =>
    obtain ⟨rfl, _⟩ := h
    omega
  | sequence first second ihFirst ihSecond =>
    obtain ⟨k, hfirst, hsecond⟩ := h
    have hk := ihFirst hfirst
    have hj := ihSecond hsecond
    omega
  | choice first second ihFirst ihSecond =>
    rcases h with h | h
    · exact ihFirst h
    · exact ihSecond h
  | repeated least most body ih =>
    obtain ⟨n, _, _, hsteps⟩ := h
    exact hsteps.bounds fun k l hkl => ih hkl

theorem computes_one (text : Array Char) (set : CharSet) :
    Computes ((Pattern.one set).ends text) ((Pattern.one set).Spans text) := by
  constructor
  · intro starts hstarts
    have hmono : ∀ i j : Nat, i > j → i + 1 > j + 1 := fun i j hij => Nat.succ_lt_succ hij
    exact (hstarts.filter _).map (· + 1) hmono
  · intro starts _ j
    simp only [ends, List.mem_map, List.mem_filter, Option.any_eq_true, Spans]
    constructor
    · rintro ⟨i, ⟨hi, hset⟩, rfl⟩
      exact ⟨i, hi, rfl, hset⟩
    · rintro ⟨i, hi, rfl, hset⟩
      exact ⟨i, ⟨hi, hset⟩, rfl⟩

theorem computes_condition (text : Array Char) (c : Condition) :
    Computes ((Pattern.condition c).ends text) ((Pattern.condition c).Spans text) := by
  constructor
  · intro starts hstarts
    exact hstarts.filter _
  · intro starts _ j
    simp only [ends, List.mem_filter, Spans]
    constructor
    · rintro ⟨hj, hholds⟩
      exact ⟨j, hj, rfl, hholds⟩
    · rintro ⟨i, hi, rfl, hholds⟩
      exact ⟨hi, hholds⟩

/-- More steps in a text than it has characters are not needed. -/
theorem exists_steps_iff {body : Pattern} {least i j : Nat} :
    (∃ n, least ≤ n ∧ n ≤ least + (text.size + 1) ∧ Steps (body.Spans text) n i j) ↔
      ∃ n, least ≤ n ∧ Steps (body.Spans text) n i j := by
  constructor
  · rintro ⟨n, hleast, _, hsteps⟩
    exact ⟨n, hleast, hsteps⟩
  · rintro ⟨n, hleast, hsteps⟩
    obtain ⟨more, rfl⟩ := Nat.exists_eq_add_of_le hleast
    obtain ⟨k, hk, hmore⟩ := steps_add.1 hsteps
    have hj := (hmore.bounds fun a b hab => hab.bounds).2
    obtain ⟨m, hlength, _, hshort⟩ := hmore.shorten fun a b hab => hab.bounds.1
    exact ⟨least + m, by omega, by omega, steps_add.2 ⟨k, hk, hshort⟩⟩

/-- The matcher finds the ends of the parts that a pattern describes. -/
theorem computes_ends (text : Array Char) (pattern : Pattern) :
    Computes (pattern.ends text) (pattern.Spans text) := by
  induction pattern with
  | empty => exact ⟨id, fun _ j => by simp [ends, Spans]⟩
  | one set => exact computes_one text set
  | condition c => exact computes_condition text c
  | sequence first second ihFirst ihSecond => exact ihFirst.comp ihSecond
  | choice first second ihFirst ihSecond => exact ihFirst.union ihSecond
  | repeated least most body ih =>
    cases most with
    | some most =>
      refine (ih.between least (most - least)).congr fun i j => exists_congr fun n => ?_
      have hbound : n ≤ least + (most - least) ↔ n ≤ max least most := by omega
      simp only [Option.mem_some_iff, forall_eq', hbound]
    | none =>
      refine (ih.between least (text.size + 1)).congr fun i j => exists_steps_iff.trans ?_
      simp [Spans]

/-! ## Matches -/

theorem mem_positions {i : Nat} : i ∈ positions text ↔ i ≤ text.size := by
  unfold positions
  rw [List.mem_reverse, List.mem_range, Nat.lt_succ_iff]

theorem descending_positions (text : Array Char) : Descending (positions text) := by
  unfold Descending positions
  rw [List.pairwise_reverse]
  exact List.pairwise_lt_range

/-- A text matches when the pattern describes some part of it. -/
theorem isMatch_iff {pattern : Pattern} {text : String} :
    pattern.isMatch text = true ↔
      ∃ i j, i ≤ text.toList.length ∧ pattern.Spans text.toList.toArray i j := by
  unfold isMatch
  simp only [Bool.not_eq_true', List.isEmpty_eq_false_iff_exists_mem,
    (computes_ends _ pattern).mem (descending_positions _), mem_positions, List.size_toArray]
  exact exists_comm.trans (exists_congr fun i => by simp)

/-- A pattern for whole texts describes all of a text. -/
theorem isMatch_whole_iff {body : Pattern} {text : String} :
    (whole body).isMatch text = true ↔ body.Spans text.toList.toArray 0 text.toList.length := by
  rw [isMatch_iff]
  simp only [whole, Spans, Condition.holds, decide_eq_true_eq, List.size_toArray]
  constructor
  · rintro ⟨i, j, _, k, ⟨rfl, rfl⟩, l, hbody, rfl, rfl⟩
    exact hbody
  · intro hbody
    exact ⟨0, _, Nat.zero_le _, 0, ⟨rfl, rfl⟩, _, hbody, rfl, rfl⟩

end Pattern
end RequestGate
