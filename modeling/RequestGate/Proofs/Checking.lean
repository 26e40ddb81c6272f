import Mathlib.Data.List.Basic
import RequestGate.Validation.Checker

/-!
# Acceptable rules never fail themselves

A check can fail because of the value, or because the rule itself cannot be applied: its kind is
unknown, it is an enumeration without values, or its format is no pattern.  A rule that has none of
these faults is acceptable.  The rule that is derived for the items of an array keeps some options
only, and it is acceptable when the rule of the array is.

Main results:

- Theorem `IsValueFault.not_isRuleFault`: what is said about a value is never said about a rule.
- Theorem `Rule.IsAcceptable.itemRule`: the rule for items of an acceptable rule is acceptable.
- Theorem `Checker.check_faultsValueOnly`: checking any value with an acceptable rule fails because
  of the value only.
-/

namespace RequestGate

/-! ## Acceptable rules -/

/-- A rule that a checker can apply to every value. -/
structure Rule.IsAcceptable (rule : Rule) : Prop where
  kind_known : ∀ name, rule.kind = some name → ∃ kind, Kind.ofName? name = some kind
  itemType_known : ∀ name, rule.option? "itemType" = some (.string name) →
    ∃ kind, Kind.ofName? name = some kind
  values_given : rule.kind = some "enum" ∨ rule.option? "itemType" = some (.string "enum") →
    ∃ values, rule.option? "values" = some (.array values)
  format_is_pattern : ∀ text, rule.option? "format" = some (.string text) →
    ∃ pattern, Pattern.ofText? text = some pattern

/-- Only one name is that of enumerations. -/
theorem Kind.ofName?_eq_enumeration_iff {name : String} :
    Kind.ofName? name = some .enumeration ↔ name = "enum" := by
  constructor
  · intro h
    unfold Kind.ofName? at h
    split at h <;> first | rfl | cases h
  · rintro rfl
    rfl

namespace Checker

theorem textOption?_eq_some_iff {rule : Rule} {key text : String} :
    textOption? rule key = some text ↔ rule.option? key = some (.string text) := by
  unfold textOption?
  constructor
  · intro h
    obtain ⟨value, hvalue, htext⟩ := Option.bind_eq_some_iff.1 h
    cases value with
    | string other =>
      cases htext
      exact hvalue
    | null | bool | number | array | object => cases htext
  · intro h
    rw [h]
    rfl

theorem asArray?_eq_some_iff {value : Option Json} {items : List Json} :
    value.bind Json.asArray? = some items ↔ value = some (.array items) := by
  constructor
  · intro h
    obtain ⟨found, rfl, hitems⟩ := Option.bind_eq_some_iff.1 h
    cases found with
    | array other =>
      cases hitems
      rfl
    | null | bool | number | string | object => cases hitems
  · rintro rfl
    rfl

theorem ensure_eq_ok_iff {condition : Bool} {message : String} :
    ensure condition message = .ok () ↔ condition = true := by
  unfold ensure
  cases condition <;> simp

/-- A rule of a known kind checks by that kind. -/
theorem check_eq_checkKind {checker : Checker} {rule : Rule} {kind : Kind}
    (hkind : rule.kind.bind Kind.ofName? = some kind) (value : Json) :
    checker.check rule value = checkKind checker rule checker.checkItem value kind := by
  obtain ⟨name, hname, hkind⟩ := Option.bind_eq_some_iff.1 hkind
  unfold check checkWith
  simp only [hname, hkind]

/-- The rule for items keeps three options and has no other. -/
theorem option?_itemRule (rule : Rule) (kind key : String) :
    (itemRule rule kind).option? key =
      if key ∈ ["values", "format", "allowEmpty"] then rule.option? key else none := by
  have hkept : ∀ keys : List String,
      Fields.get? key (keys.filterMap fun name => (rule.option? name).map (name, ·)) =
        if key ∈ keys then rule.option? key else none := by
    intro keys
    induction keys with
    | nil => rfl
    | cons name keys ih =>
      rw [List.filterMap_cons]
      cases hname : rule.option? name with
      | none =>
        simp only [Option.map_none, ih, List.mem_cons]
        by_cases h : key = name
        · subst h
          simp [hname]
        · simp [h]
      | some value =>
        simp only [Option.map_some, Fields.get?_cons, ih, List.mem_cons]
        by_cases h : key = name
        · subst h
          simp [hname]
        · simp [h, Ne.symm h]
  exact hkept _

end Checker

/-- The rule for the items of an array is acceptable when the rule of the array is. -/
theorem Rule.IsAcceptable.itemRule {rule : Rule} (h : rule.IsAcceptable) {kind : String}
    (hkind : Checker.textOption? rule "itemType" = some kind) :
    (Checker.itemRule rule kind).IsAcceptable := by
  rw [Checker.textOption?_eq_some_iff] at hkind
  have hitem : (Checker.itemRule rule kind).option? "itemType" = none := by
    rw [Checker.option?_itemRule, if_neg (by decide)]
  have hvalues : (Checker.itemRule rule kind).option? "values" = rule.option? "values" := by
    rw [Checker.option?_itemRule, if_pos (by decide)]
  have hformat : (Checker.itemRule rule kind).option? "format" = rule.option? "format" := by
    rw [Checker.option?_itemRule, if_pos (by decide)]
  constructor
  · intro name hname
    obtain rfl : kind = name := Option.some.inj hname
    exact h.itemType_known kind hkind
  · intro name hname
    rw [hitem] at hname
    cases hname
  · intro henum
    rw [hvalues]
    rcases henum with henum | henum
    · obtain rfl : kind = "enum" := Option.some.inj henum
      exact h.values_given (Or.inr hkind)
    · rw [hitem] at henum
      cases henum
  · intro text htext
    rw [hformat] at htext
    exact h.format_is_pattern text htext

/-! ## What checks say -/

/-- What a check says about a rule that cannot be applied, at any depth of items. -/
inductive IsRuleFault : String → Prop
  | unknownKind (name : String) : IsRuleFault ("unsupported rule type `" ++ name ++ "`")
  | noValues : IsRuleFault "enum rule has no `values`"
  | noPattern (detail : String) : IsRuleFault ("bad format pattern: " ++ detail)
  | item (position : Nat) {message : String} (h : IsRuleFault message) :
    IsRuleFault ("item " ++ toString position ++ ": " ++ message)

/-- A text begins as the texts about values do. -/
def BeginsAboutValue (text : String) : Prop :=
  text.toList.head? = some 's' ∨ text.toList.head? = some 'l'

theorem BeginsAboutValue.append {text : String} (h : BeginsAboutValue text) (rest : String) :
    BeginsAboutValue (text ++ rest) := by
  unfold BeginsAboutValue at h ⊢
  rw [String.toList_append, List.head?_append]
  rcases h with h | h
  · exact Or.inl (by rw [h]; rfl)
  · exact Or.inr (by rw [h]; rfl)

/-- What a check says about a value, at any depth of items. -/
inductive IsValueFault : String → Prop
  | own {message : String} (h : BeginsAboutValue message) : IsValueFault message
  | item (position : Nat) {message : String} (h : IsValueFault message) :
    IsValueFault ("item " ++ toString position ++ ": " ++ message)

/-- The position and the message of an item are read off from what is said about it. -/
theorem item_message_injective {position other : Nat} {message otherMessage : String}
    (h : "item " ++ toString position ++ ": " ++ message =
      "item " ++ toString other ++ ": " ++ otherMessage) : message = otherMessage := by
  have hdigits : ∀ n : Nat, ':' ∉ (toString n).toList := by
    intro n hmem
    have hdigit : ':'.isDigit = true := Nat.isDigit_of_mem_toDigits (by decide) (by decide)
      (show ':' ∈ Nat.toDigits 10 n by simpa [Nat.repr] using hmem)
    exact absurd hdigit (by decide)
  rw [String.append_assoc, String.append_assoc, String.append_assoc, String.append_assoc,
    String.append_right_inj] at h
  have hafter : ∀ (n : Nat) (rest : String),
      ((toString n ++ (": " ++ rest)).toList.dropWhile (· ≠ ':')) = ':' :: ' ' :: rest.toList := by
    intro n rest
    rw [String.toList_append, List.dropWhile_append_of_pos]
    · simp [String.toList_append]
    · intro c hc
      have hne : c ≠ ':' := fun hcolon => hdigits n (hcolon ▸ hc)
      simpa using hne
  have hrest := congrArg (fun text => text.toList.dropWhile (· ≠ ':')) h
  simp only [hafter] at hrest
  exact String.toList_inj.1 (List.cons.inj (List.cons.inj hrest).2).2

/-- What is said about a value is never said about a rule. -/
theorem IsValueFault.not_isRuleFault {message : String} (h : IsValueFault message) :
    ¬ IsRuleFault message := by
  induction h with
  | own hbegins =>
    intro hrule
    unfold BeginsAboutValue at hbegins
    cases hrule <;> simp [String.toList_append] at hbegins
  | item position h ih =>
    intro hrule
    generalize htext : "item " ++ toString position ++ ": " ++ _ = text at hrule
    have hhead := congrArg (fun text => text.toList.head?) htext
    cases hrule with
    | item other hrule =>
      rw [item_message_injective htext] at ih
      exact ih hrule
    | unknownKind | noValues | noPattern => simp [String.toList_append] at hhead

/-! ## Checks with acceptable rules -/

/-- A check fails because of the value only. -/
def Check.FaultsValueOnly (result : Check) : Prop :=
  ∀ message, result = .error message → IsValueFault message

namespace Check

theorem FaultsValueOnly.ok : FaultsValueOnly (.ok ()) :=
  fun _ h => nomatch h

theorem FaultsValueOnly.error {message : String} (h : IsValueFault message) :
    FaultsValueOnly (.error message) := by
  intro other hother
  cases hother
  exact h

theorem FaultsValueOnly.bind {first : Check} {next : Unit → Check} (hfirst : first.FaultsValueOnly)
    (hnext : (next ()).FaultsValueOnly) : FaultsValueOnly (first >>= next) := by
  cases first with
  | error message => exact FaultsValueOnly.error (hfirst message rfl)
  | ok value => exact hnext

end Check

namespace Checker

theorem ensure_faultsValueOnly (condition : Bool) {message : String}
    (h : BeginsAboutValue message) : (ensure condition message).FaultsValueOnly := by
  unfold ensure
  split
  · exact .ok
  · exact .error (.own h)

theorem checkBounds_faultsValueOnly (rule : Rule) (x : Binary64) {subject : String}
    (h : BeginsAboutValue subject) : (checkBounds rule x subject).FaultsValueOnly := by
  have hfails : ∀ (words : String) (limit : Binary64), Check.FaultsValueOnly
      (throw (subject ++ words ++ Numeral.Layout.message.write limit)) := fun words limit =>
    .error (.own ((h.append words).append _))
  unfold checkBounds
  cases (rule.option? "min").bind Json.asBinary64? <;>
    cases (rule.option? "max").bind Json.asBinary64? <;> simp only
  case none.none => exact .ok
  case none.some most =>
    split
    · exact hfails " at most " most
    · exact .ok
  case some.none least =>
    split
    · exact hfails " at least " least
    · exact .ok
  case some.some least most =>
    split
    · exact hfails " at least " least
    · split
      · exact hfails " at most " most
      · exact .ok

theorem checkLength_faultsValueOnly (rule : Rule) (length : Nat) :
    (checkLength rule length).FaultsValueOnly := by
  unfold checkLength
  split
  · exact checkBounds_faultsValueOnly rule _ (Or.inr (by decide))
  · exact .ok

theorem checkPattern_faultsValueOnly (checker : Checker) {rule : Rule} (h : rule.IsAcceptable)
    (text : String) : (checkPattern checker rule text).FaultsValueOnly := by
  unfold checkPattern
  cases hformat : textOption? rule "format" with
  | none => exact .ok
  | some format =>
    -- A format that is a pattern is found among the patterns read, or is read again.
    obtain ⟨pattern, hpattern⟩ := h.format_is_pattern format (textOption?_eq_some_iff.1 hformat)
    have hfound : (checker.pattern? format).isSome = true := by
      unfold pattern?
      rw [hpattern, Option.isSome_or, Option.isSome_some, Bool.or_true]
    obtain ⟨found, hfound⟩ := Option.isSome_iff_exists.1 hfound
    simp only [hfound]
    have hbegins : BeginsAboutValue "should match " := Or.inl (by decide)
    exact ensure_faultsValueOnly _ (hbegins.append format)

theorem checkString_faultsValueOnly (checker : Checker) {rule : Rule} (h : rule.IsAcceptable)
    (value : Json) : (checkString checker rule value).FaultsValueOnly := by
  unfold checkString
  split
  · exact .error (.own (Or.inl (by decide)))
  · split
    · exact ensure_faultsValueOnly _ (Or.inl (by decide))
    · exact .bind (checkLength_faultsValueOnly rule _) (checkPattern_faultsValueOnly checker h _)

/-- An acceptable rule for an enumeration has values. -/
theorem checkEnumeration_faultsValueOnly {rule : Rule} (h : rule.IsAcceptable)
    (hkind : rule.kind = some "enum") (value : Json) :
    (checkEnumeration rule value).FaultsValueOnly := by
  obtain ⟨values, hvalues⟩ := h.values_given (Or.inl hkind)
  unfold checkEnumeration
  rw [asArray?_eq_some_iff.2 hvalues]
  have hbegins : BeginsAboutValue "should be one of " := Or.inl (by decide)
  exact ensure_faultsValueOnly _ (hbegins.append _)

theorem checkItems_faultsValueOnly {check : Json → Check}
    (h : ∀ item, (check item).FaultsValueOnly) (position : Nat) (items : List Json) :
    (checkItems check position items).FaultsValueOnly := by
  induction items generalizing position with
  | nil => exact .ok
  | cons item rest ih =>
    unfold checkItems
    split
    · rename_i message hmessage
      exact .error (.item position (h item message hmessage))
    · exact ih (position + 1)

/-- A check by kind with an acceptable rule fails because of the value only, when checks of items
do. -/
theorem checkKind_faultsValueOnly (checker : Checker) {rule : Rule} (h : rule.IsAcceptable)
    {checkItem : Rule → Json → Check}
    (hitem : ∀ kind, textOption? rule "itemType" = some kind →
      ∀ item, (checkItem (itemRule rule kind) item).FaultsValueOnly)
    {name : String} (hname : rule.kind = some name) {kind : Kind}
    (hkind : Kind.ofName? name = some kind) (value : Json) :
    (checkKind checker rule checkItem value kind).FaultsValueOnly := by
  cases kind with
  | integer | number =>
    simp only [checkKind]
    split
    · exact checkBounds_faultsValueOnly rule _ (Or.inl (by decide))
    · exact .error (.own (Or.inl (by decide)))
  | string => exact checkString_faultsValueOnly checker h value
  | array =>
    simp only [checkKind]
    split
    · exact .error (.own (Or.inl (by decide)))
    · refine .bind (checkLength_faultsValueOnly rule _) ?_
      split
      · rename_i itemKind hitemKind
        exact checkItems_faultsValueOnly (hitem itemKind hitemKind) 0 _
      · exact .ok
  | enumeration =>
    obtain rfl := Kind.ofName?_eq_enumeration_iff.1 hkind
    exact checkEnumeration_faultsValueOnly h hname value
  | boolean | object | email | url | date | dateTime | id =>
    exact ensure_faultsValueOnly _ (Or.inl (by decide))
  | file => exact .ok

theorem checkWith_faultsValueOnly (checker : Checker) {rule : Rule} (h : rule.IsAcceptable)
    {checkItem : Rule → Json → Check}
    (hitem : ∀ kind, textOption? rule "itemType" = some kind →
      ∀ item, (checkItem (itemRule rule kind) item).FaultsValueOnly) (value : Json) :
    (checkWith checker checkItem rule value).FaultsValueOnly := by
  unfold checkWith
  cases hname : rule.kind with
  | none => exact .ok
  | some name =>
    obtain ⟨kind, hkind⟩ := h.kind_known name hname
    simp only [hkind]
    exact checkKind_faultsValueOnly checker h hitem hname hkind value

theorem checkItem_faultsValueOnly (checker : Checker) {rule : Rule} (h : rule.IsAcceptable)
    (value : Json) : (checker.checkItem rule value).FaultsValueOnly :=
  checkWith_faultsValueOnly checker h (fun _ _ _ => .ok) value

/-- Checking any value with an acceptable rule fails because of the value only. -/
theorem check_faultsValueOnly (checker : Checker) {rule : Rule} (h : rule.IsAcceptable)
    (value : Json) : (checker.check rule value).FaultsValueOnly :=
  checkWith_faultsValueOnly checker h
    (fun _ hkind item => checkItem_faultsValueOnly checker (h.itemRule hkind) item) value

/-! ## Fields -/

/-- A bag is rejected with the failures of fields. -/
theorem exists_of_validate_eq_error {checker : Checker} {rules : FieldRules} {data : Bag}
    {invalid : InvalidParams} (h : checker.validate rules data = .error invalid) {e : FieldError}
    (he : e ∈ invalid.errors) : ∃ entry ∈ rules, checker.fieldError? data entry = some e := by
  unfold validate at h
  split at h
  · cases h
  · cases h
    exact List.mem_filterMap.1 he

/-- A value that is there fails when its check does. -/
theorem fieldError?_of_ne_null {checker : Checker} {data : Bag} {entry : String × Rule}
    {value : Json} (hget : Fields.get? entry.1 data = some value)
    (hvalue : value ≠ .null) :
    checker.fieldError? data entry =
      match checker.check entry.2 value with
      | .ok () => none
      | .error message => some (.invalid entry.1 message) := by
  unfold fieldError?
  rw [hget]
  cases value with
  | null => exact absurd rfl hvalue
  | bool | number | string | array | object => rfl

/-- An invalid field has a value that its check fails on. -/
theorem exists_check_of_fieldError? {checker : Checker} {data : Bag} {entry : String × Rule}
    {e : FieldError} (h : checker.fieldError? data entry = some e) {message : String}
    (hinvalid : e.defect = .invalid message) :
    ∃ value, checker.check entry.2 value = .error message := by
  unfold fieldError? at h
  split at h
  · split at h
    · cases h
      cases hinvalid
    · cases h
  · split at h
    · cases h
      cases hinvalid
    · cases h
  · rename_i value _ _
    cases hcheck : checker.check entry.2 value with
    | ok =>
      rw [hcheck] at h
      cases h
    | error reported =>
      rw [hcheck] at h
      cases h
      cases hinvalid
      exact ⟨value, hcheck⟩

end Checker
end RequestGate
