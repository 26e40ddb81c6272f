import RequestGate.Proofs.Faithfulness
import RequestGate.Proofs.MalformedParameters

/-!
# Rules and the options they are built of

The rule of a field takes over the options of its extensions one after another.  Two names are no
options of their own: `type` and `required` override the rule's kind and its mark, and every other
option is kept as it is written, in its order.

Main results:

- Theorem `Rule.build_cases`: what building a rule takes, and what options make of it.
- Theorem `Rule.required_of_build`: a rule is required as its options say, and else as it is declared.
-/

namespace RequestGate

/-- The truth value that the options of a field give `required`.  An object in a document has a name
once; of several values the last one would count. -/
def Extensions.required? : Option Json → Option Bool
  | some (.object members) => (Fields.lastOf "required" members).bind Json.asBool?
  | _ => none

namespace Rule

/-- Whether an option is kept with a rule, that is, overrides neither its kind nor its mark. -/
def isKept (entry : String × Json) : Bool :=
  entry.1 ≠ "type" && entry.1 ≠ "required"

/-- What options make of a rule. -/
structure Extends (start : Rule) (members : Fields Json) (rule : Rule) : Prop where
  kind_eq : rule.kind = ((Fields.lastOf "type" members).bind Json.asString?).or start.kind
  required_eq : rule.required =
    ((Fields.lastOf "required" members).bind Json.asBool?).getD start.required
  options_eq : rule.options = start.options ++ members.filter isKept

theorem Extends.refl (rule : Rule) : Extends rule [] rule := by
  constructor
  case kind_eq => rfl
  case required_eq => rfl
  case options_eq => simp

/-- One more option. -/
theorem Extends.withOption {start rule next : Rule} {members : Fields Json} {field : String}
    {entry : String × Json} (h : Extends start members rule)
    (hnext : Rule.withOption field rule entry = .ok next) :
    Extends start (members ++ [entry]) next := by
  obtain ⟨key, value⟩ := entry
  have hdifferent : ("type" : String) ≠ "required" := by decide
  unfold Rule.withOption at hnext
  by_cases hkind : key = "type"
  · subst hkind
    cases value <;> simp at hnext
    subst hnext
    constructor
    · simp [Fields.lastOf_append_singleton, Json.asString?]
    · simpa [Fields.lastOf_append_singleton, hdifferent.symm] using h.required_eq
    · simpa [List.filter_append, isKept] using h.options_eq
  · by_cases hrequired : key = "required"
    · subst hrequired
      cases value <;> simp at hnext
      subst hnext
      constructor
      · simpa [Fields.lastOf_append_singleton, hdifferent] using h.kind_eq
      · simp [Fields.lastOf_append_singleton, Json.asBool?]
      · simpa [List.filter_append, isKept] using h.options_eq
    · simp [hkind, hrequired] at hnext
      subst hnext
      constructor
      · simpa [Fields.lastOf_append_singleton, Ne.symm hkind] using h.kind_eq
      · simpa [Fields.lastOf_append_singleton, Ne.symm hrequired] using h.required_eq
      · simp [List.filter_append, isKept, hkind, hrequired, h.options_eq]

/-- What building a rule takes: extensions of the right shape, whose options extend the declared
rule. -/
theorem build_cases {declared : Option String} {required : Bool} {format options : Option Json}
    {field : String} {rule : Rule} (h : build declared required format options field = .ok rule) :
    ∃ text members, formatText field format = .ok text ∧
      optionMembers field options = .ok members ∧
      Extends ⟨text.or declared, required, []⟩ members rule := by
  obtain ⟨text, htext, h⟩ := Fallible.bind_eq_ok_iff.1 h
  obtain ⟨members, hmembers, h⟩ := Fallible.bind_eq_ok_iff.1 h
  refine ⟨text, members, htext, hmembers, ?_⟩
  exact Fallible.foldlM_ok_induction (motive := fun done rule => Extends _ done rule)
    (Extends.refl _) (fun _ _ _ _ hdone hnext => hdone.withOption hnext) h

/-- A rule is required as its options say, and as it is declared where they do not say it. -/
theorem required_of_build {declared : Option String} {required : Bool} {format options : Option Json}
    {field : String} {rule : Rule} (h : build declared required format options field = .ok rule) :
    rule.required = (Extensions.required? options).getD required := by
  obtain ⟨_, members, _, hmembers, hextends⟩ := build_cases h
  rcases optionMembers_eq_ok_iff.1 hmembers with rfl | ⟨rfl | rfl, rfl⟩
  · exact hextends.required_eq
  · exact hextends.required_eq
  · exact hextends.required_eq

end Rule

/-! ## The rules of a compiled description -/

/-- A rule stands in the table of a compiled description: at a place of an operation, under some
field. -/
def Compiled.HasRule (compiled : Compiled) (rule : Rule) : Prop :=
  ∃ entry ∈ compiled.rules.entries, ∃ rules, entry.rules = some rules ∧
    ∃ location key, (key, rule) ∈ rules.fieldsAt location

end RequestGate
