import Mathlib.Logic.Function.Iterate
import RequestGate.Proofs.Expansion

/-!
# The run of an expansion

An expansion run step by step, by a machine with one stack for the texts in expansion.  A call is made
for a value, and answered.  What waits for an answer is a frame: the values beside the one that is
called, or a reference whose target is called.  A reference puts its text on the stack when its target
is called and takes the top off when the answer is there, be it a value or a fault.

No measure of the work is part of the machine, so that its run ends is a statement.

Main results:

- Theorem `Reference.Run.IsSound.step`: what every step keeps.
- Theorem `Reference.Run.inside_call`: a call is answered with the expansion of its value, and leaves
  the stack as it was.
- Theorem `Reference.isOrderly`: the run ends with the expansion of the document, and its stack is in
  order all the time.
-/

namespace RequestGate
namespace Reference
namespace Run

open Json (IsPartOf)

/-! ## The machine -/

/-- What waits for the answer to a call. -/
inductive Frame where
  /-- An array or an object: how it is put together, its parts that are done, and those to come. -/
  | parts (build : List Json → Json) (done rest : List Json)
  /-- A reference whose target is called. -/
  | reference

/-- What a run is at. -/
inductive Control where
  | call (value : Json)
  | answer (result : Except Fault Json)

/-- A moment of a run.  The text that was put on the stack last comes first. -/
structure State where
  control : Control
  frames : List Frame
  active : List String

/-- Calls the next part of an array or an object, or answers when there is none. -/
def nextPart (build : List Json → Json) (done rest : List Json) (frames : List Frame)
    (active : List String) : State :=
  match rest with
  | [] => ⟨.answer (.ok (build done)), frames, active⟩
  | part :: rest => ⟨.call part, .parts build done rest :: frames, active⟩

/-- The members of an object with other values. -/
def withValues (members : Fields Json) (values : List Json) : Json :=
  .object ((Fields.names members).zip values)

/-- What is done about a call. -/
def enter (root : Json) (frames : List Frame) (active : List String) : Json → State
  | .array items => nextPart .array [] items frames active
  | .object members =>
    match text? members with
    | none => nextPart (withValues members) [] (members.map Prod.snd) frames active
    | some text =>
      if text ∈ active then ⟨.answer (.ok (.object members)), frames, active⟩
      else
        match target root text with
        | .error fault => ⟨.answer (.error fault), frames, active⟩
        | .ok value => ⟨.call value, .reference :: frames, text :: active⟩
  | value => ⟨.answer (.ok value), frames, active⟩

/-- What is done about an answer.  A fault ends every call that waits; without any the run is over. -/
def leave (result : Except Fault Json) (active : List String) : List Frame → State
  | [] => ⟨.answer result, [], active⟩
  | .reference :: frames => ⟨.answer result, frames, active.tail⟩
  | .parts build done rest :: frames =>
    match result with
    | .ok value => nextPart build (done ++ [value]) rest frames active
    | .error fault => ⟨.answer (.error fault), frames, active⟩

/-- One step of a run. -/
def step (root : Json) (state : State) : State :=
  match state.control with
  | .call value => enter root state.frames state.active value
  | .answer result => leave result state.active state.frames

/-- A run from a call of the document, after a number of steps. -/
def moment (root : Json) (n : Nat) : State :=
  (step root)^[n] ⟨.call root, [], []⟩

theorem moment_succ (root : Json) (n : Nat) : moment root (n + 1) = step root (moment root n) :=
  Function.iterate_succ_apply' _ _ _

/-! ## What every step keeps -/

variable {root : Json}

/-- The parts that a frame will call. -/
def Frame.rest : Frame → List Json
  | parts _ _ rest => rest
  | reference => []

/-- What holds at every moment: the stack has texts of the document, each once, and calls are and will
be made for reached values only. -/
structure IsSound (root : Json) (state : State) : Prop where
  active : IsActive root state.active
  called : ∀ value, state.control = .call value → Reaches root root value
  waiting : ∀ frame ∈ state.frames, ∀ value ∈ frame.rest, Reaches root root value

theorem IsSound.start (root : Json) : IsSound root ⟨.call root, [], []⟩ := by
  refine ⟨.nil, fun value hcall => ?_, fun _ h => absurd h List.not_mem_nil⟩
  cases hcall
  exact .source

theorem IsSound.answer {result : Except Fault Json} {frames : List Frame} {active : List String}
    (hactive : IsActive root active)
    (hframes : ∀ frame ∈ frames, ∀ value ∈ frame.rest, Reaches root root value) :
    IsSound root ⟨.answer result, frames, active⟩ :=
  ⟨hactive, fun _ h => (nomatch h), hframes⟩

theorem IsSound.nextPart {build : List Json → Json} {done rest : List Json} {frames : List Frame}
    {active : List String} (hactive : IsActive root active)
    (hframes : ∀ frame ∈ frames, ∀ value ∈ frame.rest, Reaches root root value)
    (hrest : ∀ part ∈ rest, Reaches root root part) :
    IsSound root (nextPart build done rest frames active) := by
  cases rest with
  | nil => exact .answer hactive hframes
  | cons part rest =>
    obtain ⟨hpart, hrest⟩ := List.forall_mem_cons.1 hrest
    refine ⟨hactive, fun value hcall => ?_, List.forall_mem_cons.2 ⟨hrest, hframes⟩⟩
    cases hcall
    exact hpart

/-- Entering a reached value calls what is reached from it. -/
theorem IsSound.enter {value : Json} {frames : List Frame} {active : List String}
    (hactive : IsActive root active) (hvalue : Reaches root root value)
    (hframes : ∀ frame ∈ frames, ∀ value ∈ frame.rest, Reaches root root value) :
    IsSound root (enter root frames active value) := by
  unfold Run.enter
  split
  · rename_i items
    exact .nextPart hactive hframes fun item hitem => hvalue.item hitem
  · rename_i members
    split
    · rename_i hnone
      refine .nextPart hactive hframes fun part hpart => ?_
      obtain ⟨member, hmember, rfl⟩ := List.mem_map.1 hpart
      exact hvalue.member hnone hmember
    · rename_i text htext
      split
      · exact .answer hactive hframes
      · rename_i hnew
        split
        · exact .answer hactive hframes
        · rename_i next hnext
          have hknown : text ∈ texts root := text_mem_texts (hvalue.isPartOf .self) htext
          refine ⟨hactive.cons hnew hknown, fun called hcall => ?_,
            List.forall_mem_cons.2 ⟨fun _ h => absurd h List.not_mem_nil, hframes⟩⟩
          cases hcall
          exact hvalue.target htext hnext
  · exact .answer hactive hframes

theorem IsSound.leave {result : Except Fault Json} {frames : List Frame} {active : List String}
    (hactive : IsActive root active)
    (hframes : ∀ frame ∈ frames, ∀ value ∈ frame.rest, Reaches root root value) :
    IsSound root (leave result active frames) := by
  unfold Run.leave
  split
  · exact .answer hactive hframes
  · exact .answer hactive.tail (List.forall_mem_cons.1 hframes).2
  · obtain ⟨hrest, hframes⟩ := List.forall_mem_cons.1 hframes
    split
    · exact .nextPart hactive hframes hrest
    · exact .answer hactive hframes

/-- The step lemma. -/
theorem IsSound.step {state : State} (h : IsSound root state) : IsSound root (step root state) := by
  unfold Run.step
  split
  · rename_i value hcall
    exact .enter h.active (h.called value hcall) h.waiting
  · exact .leave h.active h.waiting

/-- The run lemma. -/
theorem isSound_moment (root : Json) (n : Nat) : IsSound root (moment root n) := by
  induction n with
  | zero => exact .start root
  | succ n ih =>
    rw [moment_succ]
    exact ih.step

/-! ## Calls and their answers -/

/-- A frame more, at least, waits than the outer ones. -/
def IsDeeper (outer frames : List Frame) : Prop :=
  ∃ inner frame, frames = inner ++ frame :: outer

theorem IsDeeper.of_cons {outer frames : List Frame} {frame : Frame}
    (h : IsDeeper (frame :: outer) frames) : IsDeeper outer frames := by
  obtain ⟨inner, last, rfl⟩ := h
  exact ⟨inner ++ [last], frame, by simp⟩

/-- One state comes after another, and in between the outer frames wait, with at least one more. -/
def Inside (root : Json) (outer : List Frame) (first last : State) : Prop :=
  ∃ n, 0 < n ∧ (step root)^[n] first = last ∧
    ∀ k, 0 < k → k < n → IsDeeper outer ((step root)^[k] first).frames

theorem Inside.single {outer : List Frame} {first last : State} (h : step root first = last) :
    Inside root outer first last :=
  ⟨1, Nat.one_pos, h, fun _ hpos hlt => absurd hlt (by omega)⟩

theorem Inside.of_cons {outer : List Frame} {frame : Frame} {first last : State}
    (h : Inside root (frame :: outer) first last) : Inside root outer first last := by
  obtain ⟨n, hpos, hlast, hdeeper⟩ := h
  exact ⟨n, hpos, hlast, fun k hk hkn => (hdeeper k hk hkn).of_cons⟩

theorem Inside.trans {outer : List Frame} {first middle last : State}
    (h : Inside root outer first middle) (hmiddle : IsDeeper outer middle.frames)
    (hnext : Inside root outer middle last) : Inside root outer first last := by
  obtain ⟨n, hn, rfl, hfirst⟩ := h
  obtain ⟨m, hm, rfl, hsecond⟩ := hnext
  refine ⟨m + n, by omega, Function.iterate_add_apply _ _ _ _, fun k hk hkn => ?_⟩
  rcases Nat.lt_trichotomy k n with hlt | rfl | hgt
  · exact hfirst k hk hlt
  · exact hmiddle
  · obtain ⟨later, rfl⟩ := Nat.exists_eq_add_of_lt hgt
    rw [show n + later + 1 = (later + 1) + n by omega, Function.iterate_add_apply]
    exact hsecond (later + 1) (by omega) (by omega)

/-- The parts of an array or an object are called one after another, up to the first fault. -/
theorem inside_nextPart {replace : Fields Json → String → Except Fault Json} {active : List String}
    {build : List Json → Json} {frames : List Frame} {rest : List Json}
    (hparts : ∀ part ∈ rest, ∀ frames, Inside root frames ⟨.call part, frames, active⟩
      ⟨.answer (walk replace part), frames, active⟩) {done : List Json} {state : State}
    (hstep : step root state = nextPart build done rest frames active) :
    Inside root frames state
      ⟨.answer ((walkItems replace rest).map fun values => build (done ++ values)), frames,
        active⟩ := by
  induction rest generalizing done state with
  | nil =>
    rw [walkItems, Except.map, List.append_nil]
    exact .single hstep
  | cons part rest ih =>
    obtain ⟨hpart, hrest⟩ := List.forall_mem_cons.1 hparts
    have hdeeper : IsDeeper frames (.parts build done rest :: frames) := ⟨[], _, rfl⟩
    have hanswer := (hpart (.parts build done rest :: frames)).of_cons
    refine (Inside.single hstep).trans hdeeper (hanswer.trans hdeeper ?_)
    rw [walkItems]
    cases walk replace part with
    | error fault => exact .single rfl
    | ok value =>
      have hlater : Inside root frames
          ⟨.answer (.ok value), .parts build done rest :: frames, active⟩
          ⟨.answer ((walkItems replace rest).map fun values => build (done ++ [value] ++ values)),
            frames, active⟩ := ih hrest rfl
      cases hothers : walkItems replace rest <;>
        simpa [hothers, Except.map, bind, Except.bind, pure, Except.pure] using hlater

theorem walkMembers_eq_walkItems {replace : Fields Json → String → Except Fault Json}
    (members : Fields Json) :
    walkMembers replace members =
      (walkItems replace (members.map Prod.snd)).map ((Fields.names members).zip ·) := by
  induction members with
  | nil => rfl
  | cons member rest ih =>
    rw [walkMembers, List.map_cons, walkItems, ih]
    cases walk replace member.2 <;> cases walkItems replace (rest.map Prod.snd) <;> rfl

/-- A call walks its value, when the calls of references do as the replacement says. -/
theorem inside_walk {replace : Fields Json → String → Except Fault Json} {active : List String}
    (hreplace : ∀ members text, IsPartOf (.object members) root → text? members = some text →
      ∀ frames, Inside root frames ⟨.call (.object members), frames, active⟩
        ⟨.answer (replace members text), frames, active⟩)
    {value : Json} (hvalue : IsPartOf value root) (frames : List Frame) :
    Inside root frames ⟨.call value, frames, active⟩
      ⟨.answer (walk replace value), frames, active⟩ := by
  induction value using Json.inductionOn generalizing frames with
  | null | bool | number | string => exact .single rfl
  | array items ih =>
    have hcall : step root ⟨.call (.array items), frames, active⟩ =
        nextPart .array [] items frames active := rfl
    rw [walk]
    refine inside_nextPart (fun item hitem frames => ?_) hcall
    exact ih item hitem ((Json.isPartOf_array hitem).trans hvalue) frames
  | object members ih =>
    cases htext : text? members with
    | some text =>
      rw [walk_of_text? htext]
      exact hreplace members text hvalue htext frames
    | none =>
      have hmade : walk replace (.object members) =
          (walkItems replace (members.map Prod.snd)).map (withValues members) := by
        rw [walk_of_text?_eq_none htext, walkMembers_eq_walkItems]
        cases walkItems replace (members.map Prod.snd) <;> rfl
      have hcall : step root ⟨.call (.object members), frames, active⟩ =
          nextPart (withValues members) [] (members.map Prod.snd) frames active := by
        simp only [step, enter, htext]
      rw [hmade]
      refine inside_nextPart (fun part hpart frames => ?_) hcall
      obtain ⟨member, hmember, rfl⟩ := List.mem_map.1 hpart
      exact ih member hmember ((Json.isPartOf_object hmember).trans hvalue) frames

/-- A call is answered with the expansion of its value, and then the stack is as it was. -/
theorem inside_call {turns : Nat} {active : List String} (hturns : Suffices root turns active)
    (hactive : IsActive root active) {value : Json} (hvalue : IsPartOf value root)
    (frames : List Frame) :
    Inside root frames ⟨.call value, frames, active⟩
      ⟨.answer (expandFor root turns active value), frames, active⟩ := by
  -- The induction is on the turns; a target is called with one more text on the stack.
  induction turns generalizing active value frames with
  | zero =>
    obtain ⟨left, hleft⟩ := hturns.exists_succ hactive
    exact absurd hleft (Nat.succ_ne_zero left).symm
  | succ turns ih =>
    rw [expandFor_succ]
    refine inside_walk (fun members text hpart htext frames => ?_) hvalue frames
    by_cases hmem : text ∈ active
    · rw [replacement_of_mem hmem]
      exact .single (by simp only [step, enter, htext, if_pos hmem])
    · cases htarget : target root text with
      | error fault =>
        rw [replacement_of_error hmem members htarget]
        exact .single (by simp only [step, enter, htext, if_neg hmem, htarget])
      | ok next =>
        rw [replacement_of_target hmem members htarget]
        have hcall : step root ⟨.call (.object members), frames, active⟩ =
            ⟨.call next, .reference :: frames, text :: active⟩ := by
          simp only [step, enter, htext, if_neg hmem, htarget]
        have hdeeper : IsDeeper frames (.reference :: frames) := ⟨[], _, rfl⟩
        have hanswer := ih (hturns.next text) (hactive.cons hmem (text_mem_texts hpart htext))
          (isPartOf_of_target htarget) (.reference :: frames)
        exact (Inside.single hcall).trans hdeeper (hanswer.of_cons.trans hdeeper (.single rfl))

/-- A run that is over stays as it is. -/
theorem moment_of_over {n : Nat} {result : Except Fault Json} {active : List String}
    (h : moment root n = ⟨.answer result, [], active⟩) {k : Nat} (hk : n ≤ k) :
    moment root k = ⟨.answer result, [], active⟩ := by
  induction hk with
  | refl => exact h
  | step _ ih =>
    rw [moment_succ, ih]
    rfl

/-- A run comes to its end, with the expansion of the document. -/
theorem exists_moment_eq (root : Json) :
    ∃ n, ∀ k, n ≤ k → moment root k = ⟨.answer (expand root), [], []⟩ := by
  obtain ⟨n, _, hlast, _⟩ := inside_call (suffices_start root) .nil .self []
  exact ⟨n, fun k hk => moment_of_over hlast hk⟩

end Run

/-! ## The run of a document -/

open Run

/-- The run of an expansion is in order. -/
structure IsOrderly (root : Json) : Prop where
  /-- After some steps nothing changes any more: the document is expanded and the stack is empty. -/
  ends : ∃ n, ∀ k, n ≤ k → moment root k = ⟨.answer (expand root), [], []⟩
  nodup_active : ∀ n, (moment root n).active.Nodup
  length_active_le : ∀ n, (moment root n).active.length ≤ (distinctTexts root).length
  /-- Every call is answered, with the same calls waiting and the same stack as when it was made; in
  between other calls are made on top of it. -/
  restores : ∀ n value, (moment root n).control = .call value →
    ∃ m, n < m ∧ (∃ result,
      moment root m = ⟨.answer result, (moment root n).frames, (moment root n).active⟩) ∧
      ∀ k, n < k → k < m → IsDeeper (moment root n).frames (moment root k).frames

/-- The run of every document is in order. -/
theorem isOrderly (root : Json) : IsOrderly root := by
  constructor
  case ends => exact exists_moment_eq root
  case nodup_active => exact fun n => (isSound_moment root n).active.nodup
  case length_active_le => exact fun n => Reference.length_active_le (isSound_moment root n).active
  case restores =>
    intro n value hcall
    have hsound := isSound_moment root n
    have hstate : moment root n = ⟨.call value, (moment root n).frames, (moment root n).active⟩ := by
      rw [← hcall]
    have hturns : Suffices root ((distinctTexts root).length + 1) (moment root n).active := by
      unfold Suffices
      omega
    obtain ⟨m, hpos, hlast, hdeeper⟩ := inside_call hturns hsound.active
      ((hsound.called value hcall).isPartOf .self) (moment root n).frames
    rw [← hstate] at hlast hdeeper
    have hmoment : ∀ k, moment root (k + n) = (step root)^[k] (moment root n) :=
      fun k => Function.iterate_add_apply _ _ _ _
    refine ⟨m + n, by omega, ⟨_, (hmoment m).trans hlast⟩, fun k hnk hkm => ?_⟩
    obtain ⟨later, rfl⟩ := Nat.exists_eq_add_of_le' (Nat.le_of_lt hnk)
    rw [hmoment]
    exact hdeeper later (by omega) (by omega)

end Reference
end RequestGate
