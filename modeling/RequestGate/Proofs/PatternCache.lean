import RequestGate.Proofs.Vetting

/-!
# Preparing is only a cache

A checker keeps the patterns that it reads while rules are prepared, also those that it has read before
a fault.  Every pattern that it keeps is the one that its text is read to.  So a checker answers after
any preparations as one that has read nothing: when it validates a bag, and when it is given more rules
to prepare.

Main results:

- Theorem `Checker.Agrees.validate_eq`: validation depends on the conversion and on what pattern is
  found for a text.
- Theorem `Checker.prepare_snd`: rules are refused with the fault of the first rule that has one.
- Theorem `Checker.prepareEach_answersAs_fresh`: a checker with any history of preparations answers as a
  fresh one.
-/

namespace RequestGate
namespace Checker

/-! ## Patterns that are kept -/

/-- Two checkers convert alike and find the same pattern for every text, kept or not. -/
structure Agrees (first second : Checker) : Prop where
  convert_eq : first.convert = second.convert
  pattern?_eq : ∀ text, first.pattern? text = second.pattern? text

/-- A sound checker finds for a text what the text is read to. -/
theorem IsSound.pattern?_eq {checker : Checker} (h : checker.IsSound) (text : String) :
    checker.pattern? text = Pattern.ofText? text := by
  unfold pattern?
  cases hkept : Fields.get? text checker.patterns with
  | none => exact Option.none_or
  | some pattern => rw [h text pattern hkept, Option.some_or]

theorem IsSound.agrees_fresh {checker : Checker} (h : checker.IsSound) :
    checker.Agrees (fresh checker.convert) where
  convert_eq := rfl
  pattern?_eq text := by rw [h.pattern?_eq, (isSound_fresh checker.convert).pattern?_eq]

namespace Agrees

variable {first second : Checker} (h : first.Agrees second)

include h

theorem number?_eq (value : Json) : first.number? value = second.number? value := by
  cases value <;> simp only [number?, h.convert_eq]

theorem text?_eq (value : Json) : first.text? value = second.text? value := by
  cases value <;> simp only [text?, h.convert_eq]

theorem isBoolean_eq (value : Json) : first.isBoolean value = second.isBoolean value := by
  cases value <;> simp only [isBoolean, h.convert_eq]

theorem checkString_eq (rule : Rule) (value : Json) :
    checkString first rule value = checkString second rule value := by
  unfold checkString checkPattern
  simp only [h.text?_eq, h.pattern?_eq]

/-- Values are checked alike by their kind when the items of arrays are. -/
theorem checkKind_eq {checkItem otherItem : Rule → Json → Check} (hitem : checkItem = otherItem)
    (rule : Rule) (value : Json) (kind : Kind) :
    checkKind first rule checkItem value kind = checkKind second rule otherItem value kind := by
  subst hitem
  cases kind with
  | integer | number => simp only [checkKind, h.number?_eq]
  | string => exact h.checkString_eq rule value
  | boolean => simp only [checkKind, h.isBoolean_eq]
  | array | object | enumeration | email | url | date | dateTime | id | file => rfl

theorem checkWith_eq {checkItem otherItem : Rule → Json → Check} (hitem : checkItem = otherItem)
    (rule : Rule) (value : Json) :
    checkWith first checkItem rule value = checkWith second otherItem rule value := by
  unfold checkWith
  simp only [h.checkKind_eq hitem]

theorem checkItem_eq : first.checkItem = second.checkItem := by
  funext rule value
  exact h.checkWith_eq rfl rule value

theorem check_eq : first.check = second.check := by
  funext rule value
  exact h.checkWith_eq h.checkItem_eq rule value

/-- Bags are validated alike. -/
theorem validate_eq (rules : FieldRules) (data : Bag) :
    first.validate rules data = second.validate rules data := by
  have hfield : first.fieldError? data = second.fieldError? data := by
    funext entry
    unfold fieldError?
    rw [h.check_eq]
  unfold validate
  rw [hfield]

end Agrees

/-! ## Rules that are refused -/

/-- What is wrong with the format of a rule. -/
def formatFault? (rule : Rule) : Option String :=
  (textOption? rule "format").bind fun format =>
    if (Pattern.ofText? format).isSome then none else some "bad format pattern: "

/-- What is wrong with the rule of a field: a kind that it names, or else its format. -/
def ruleFault? (entry : String × Rule) : Option String :=
  (((kindNames entry.2).findSome? (kindFault? entry.2)).or (formatFault? entry.2)).map
    fun reason => "field `" ++ entry.1 ++ "`: " ++ reason

/-- A sound checker refuses a rule for what is wrong with the rule. -/
theorem prepareRule_snd {checker : Checker} (h : checker.IsSound) (entry : String × Rule) :
    (checker.prepareRule entry).2 = ruleFault? entry := by
  obtain ⟨field, rule⟩ := entry
  unfold prepareRule ruleFault? formatFault?
  simp only
  cases (kindNames rule).findSome? (kindFault? rule) with
  | some reason => rfl
  | none =>
    cases textOption? rule "format" with
    | none => rfl
    | some format =>
      simp only [Option.none_or, Option.bind_some]
      split
      · -- a text whose pattern is kept is a pattern
        rename_i hcontains
        obtain ⟨pattern, hkept⟩ := Option.isSome_iff_exists.1 hcontains
        rw [h format pattern hkept]
        rfl
      · cases Pattern.ofText? format <;> rfl

/-- Rules are refused with the fault of the first rule that has one. -/
theorem prepare_snd {checker : Checker} (h : checker.IsSound) (rules : FieldRules) :
    (checker.prepare rules).2 = rules.findSome? ruleFault? := by
  induction rules generalizing checker with
  | nil => rfl
  | cons entry rest ih =>
    have hsound := (prepareRule_spec h entry).1
    have hfault := prepareRule_snd h entry
    rw [prepare, List.findSome?_cons, ← hfault]
    cases hprepare : checker.prepareRule entry with
    | mk next refusal =>
      rw [hprepare] at hsound
      cases refusal with
      | some reason => rfl
      | none => exact ih hsound

/-! ## Histories -/

theorem convert_prepareRule (checker : Checker) (entry : String × Rule) :
    (checker.prepareRule entry).1.convert = checker.convert := by
  unfold prepareRule
  simp only
  split
  · rfl
  · split
    · rfl
    · split
      · rfl
      · split <;> rfl

theorem convert_prepare (checker : Checker) (rules : FieldRules) :
    (checker.prepare rules).1.convert = checker.convert := by
  induction rules generalizing checker with
  | nil => rfl
  | cons entry rest ih =>
    have hrule := convert_prepareRule checker entry
    rw [prepare]
    cases hprepare : checker.prepareRule entry with
    | mk next refusal =>
      rw [hprepare] at hrule
      cases refusal with
      | some reason => exact hrule
      | none => exact (ih next).trans hrule

/-- A checker after it has prepared rules again and again.  Where a preparation fails, it keeps what it
had read up to the fault. -/
def prepareEach (checker : Checker) (history : List FieldRules) : Checker :=
  history.foldl (fun checker rules => (checker.prepare rules).1) checker

theorem prepareEach_cons (checker : Checker) (rules : FieldRules) (history : List FieldRules) :
    checker.prepareEach (rules :: history) = (checker.prepare rules).1.prepareEach history :=
  rfl

theorem IsSound.prepareEach {checker : Checker} (h : checker.IsSound) (history : List FieldRules) :
    (checker.prepareEach history).IsSound := by
  induction history generalizing checker with
  | nil => exact h
  | cons rules history ih => exact ih (prepare_spec h rules).1

theorem convert_prepareEach (checker : Checker) (history : List FieldRules) :
    (checker.prepareEach history).convert = checker.convert := by
  induction history generalizing checker with
  | nil => rfl
  | cons rules history ih => rw [prepareEach_cons, ih, convert_prepare]

/-- Two checkers give the same answer to every bag, and accept the same rules or refuse them with the
same message. -/
structure AnswersAs (first second : Checker) : Prop where
  validate_eq : ∀ rules data, first.validate rules data = second.validate rules data
  refusal_eq : ∀ rules, (first.prepare rules).2 = (second.prepare rules).2

/-- A checker that keeps only patterns of their texts answers as one that keeps none. -/
theorem IsSound.answersAs_fresh {checker : Checker} (h : checker.IsSound) :
    checker.AnswersAs (fresh checker.convert) where
  validate_eq := h.agrees_fresh.validate_eq
  refusal_eq rules := by rw [prepare_snd h, prepare_snd (isSound_fresh checker.convert)]

/-- Whatever has been prepared, with or without success, a checker answers as a fresh one. -/
theorem prepareEach_answersAs_fresh (convert : Bool) (history : List FieldRules) :
    ((fresh convert).prepareEach history).AnswersAs (fresh convert) := by
  have hsound := (isSound_fresh convert).prepareEach history
  have hconvert := convert_prepareEach (fresh convert) history
  have hanswers := hsound.answersAs_fresh
  rwa [hconvert] at hanswers

/-- A preparation that fails keeps the pattern that it read before the fault. -/
example : ((fresh true).prepareEach [[("tag", ⟨some "string", true, [("format", .string "a+")]⟩),
    ("size", ⟨some "colour", true, []⟩)]]).patterns.names = ["a+"] := by rfl

end Checker
end RequestGate
