import RequestGate.Proofs.Conversion
import RequestGate.Proofs.PatternLanguage

/-!
# Texts that coercion keeps

The texts of mail addresses, web addresses and dates have a character that no numeral has there: an
`@`, the colon after a scheme, the hyphen after a year.  They are no truth values either, so coercion
keeps them, and a query value is accepted where the text is.  The texts of enumerations and identifiers
may be numerals, which coercion replaces.

Main results:

- Theorem `Coercion.isKept_of_email`, `Coercion.isKept_of_isWeb`, `Coercion.isKept_of_date` and
  `Coercion.isKept_of_dateTime`: texts of these formats are kept.
- Theorem `Checker.acceptsCoerced`: what rules for texts accept after coercion.
- Theorem `Checker.refusesCoerced`: an enumeration and a rule for identifiers accept a numeral as a text
  only.
-/

namespace RequestGate
namespace Pattern

variable {text : Array Char}

/-! ## Parts of fixed formats -/

theorem spans_char_iff {c : Char} {i j : Nat} :
    (char c).Spans text i j ↔ j = i + 1 ∧ text[i]? = some c := by
  simp only [char, Spans, contains_single]
  constructor
  · rintro ⟨hj, d, hd, rfl⟩
    exact ⟨hj, hd⟩
  · rintro ⟨hj, hc⟩
    exact ⟨hj, c, hc, rfl⟩

theorem steps_one_iff {set : CharSet} {n i j : Nat} :
    Steps ((Pattern.one set).Spans text) n i j ↔
      j = i + n ∧ ∀ m < n, text[i + m]?.any set.contains = true := by
  simp only [Option.any_eq_true]
  induction n generalizing i with
  | zero => simp [Steps]
  | succ n ih =>
    simp only [Steps, ih]
    constructor
    · rintro ⟨k, ⟨rfl, hfirst⟩, rfl, hrest⟩
      refine ⟨by omega, fun m hm => ?_⟩
      cases m with
      | zero => exact hfirst
      | succ m =>
        have hnext := hrest m (by omega)
        rwa [Nat.add_right_comm] at hnext
    · rintro ⟨rfl, hall⟩
      refine ⟨i + 1, ⟨rfl, hall 0 (by omega)⟩, by omega, fun m hm => ?_⟩
      rw [Nat.add_right_comm]
      exact hall (m + 1) (by omega)

/-- So many characters of a set. -/
theorem spans_exactly_one_iff {set : CharSet} {n i j : Nat} :
    (exactly n (.one set)).Spans text i j ↔
      j = i + n ∧ ∀ m < n, text[i + m]?.any set.contains = true := by
  rw [← steps_one_iff]
  constructor
  · rintro ⟨m, hleast, hmost, hsteps⟩
    have hle : m ≤ max n n := hmost n rfl
    obtain rfl : m = n := by omega
    exact hsteps
  · intro hsteps
    exact ⟨n, Nat.le_refl n, by simp, hsteps⟩

end Pattern

namespace Format

open Pattern

/-- The first characters of a text are a year and a hyphen. -/
structure HasYear (text : String) : Prop where
  year : ∀ m < 4, text.toList[m]?.any CharSet.digits.contains = true
  hyphen : text.toList[4]? = some '-'

theorem hasYear_of_spans {text : String} {j : Nat}
    (h : calendarDay.Spans text.toList.toArray 0 j) : HasYear text := by
  obtain ⟨k, hyear, l, hhyphen, _⟩ := h
  obtain ⟨rfl, hdigits⟩ := spans_exactly_one_iff.1 hyear
  have hchar := (spans_char_iff.1 hhyphen).2
  simp only [List.getElem?_toArray, Nat.zero_add] at hdigits hchar
  exact ⟨hdigits, hchar⟩

/-- A date starts with a year. -/
theorem hasYear_of_date {text : String} (h : date.isMatch text = true) : HasYear text :=
  hasYear_of_spans (isMatch_whole_iff.1 h)

/-- A date with a time starts with a year. -/
theorem hasYear_of_dateTime {text : String} (h : dateTime.isMatch text = true) : HasYear text := by
  obtain ⟨k, hday, _⟩ := isMatch_whole_iff.1 h
  exact hasYear_of_spans hday

/-- A mail address has an `@`. -/
theorem at_mem_of_email {text : String} (h : email.isMatch text = true) : '@' ∈ text.toList := by
  obtain ⟨k, _, l, hat, _⟩ := isMatch_whole_iff.1 h
  have hchar := (spans_char_iff.1 hat).2
  rw [List.getElem?_toArray] at hchar
  exact List.mem_of_getElem? hchar

end Format

namespace Url

/-- A list that is cut has the separator. -/
theorem separator_mem_of_cut {separator : Char} {list before after : List Char}
    (h : Pieces.cut separator list = (before, some after)) : separator ∈ list := by
  unfold Pieces.cut at h
  rw [List.span_eq_takeWhile_dropWhile] at h
  split at h
  case h_1 => cases h
  case h_2 before' c after' hspan =>
    have hdrop : list.dropWhile (· ≠ separator) = c :: after' := congrArg Prod.snd hspan
    have hmem : c ∈ list := List.dropWhile_subset _ (hdrop ▸ List.mem_cons_self)
    have hstop := List.head?_dropWhile_not (fun d => decide (d ≠ separator)) list
    rw [hdrop, List.head?_cons] at hstop
    obtain rfl : c = separator := not_not.1 (of_decide_eq_false hstop)
    exact hmem

theorem colon_mem_of_scheme? {text scheme rest : List Char}
    (h : scheme? text = some (scheme, rest)) : ':' ∈ text := by
  unfold scheme? at h
  split at h
  case h_1 hcut => exact separator_mem_of_cut hcut
  case h_2 => cases h

theorem mem_of_mem_clean {text : List Char} {c : Char} (h : c ∈ clean text) : c ∈ text := by
  have hkept := (List.mem_filter.1 h).1
  have hend := List.dropWhile_subset _ (List.mem_reverse.1 hkept)
  exact List.dropWhile_subset _ (List.mem_reverse.1 hend)

/-- A web address has a colon. -/
theorem colon_mem_of_isWeb {text : String} (h : isWeb text = true) : ':' ∈ text.toList := by
  unfold isWeb at h
  split at h
  case h_1 => cases h
  case h_2 scheme rest hscheme => exact mem_of_mem_clean (colon_mem_of_scheme? hscheme)

end Url

namespace Coercion

/-- A text is neither a numeral with a finite value nor that of a truth value. -/
def IsKept (text : String) : Prop :=
  (numeral? text).bind number? = none ∧ text ≠ "true" ∧ text ≠ "false"

theorem IsKept.value_eq {text : String} (h : IsKept text) : value text = .string text := by
  unfold value
  rw [h.1]
  simp only [if_neg h.2.1, if_neg h.2.2]

theorem isKept_of_split?_eq_none {text : String} (h : Numeral.split? text.toList = none)
    (htrue : text ≠ "true") (hfalse : text ≠ "false") : IsKept text := by
  refine ⟨?_, htrue, hfalse⟩
  have hnumeral : numeral? text = none := by
    unfold numeral?
    rw [h, ite_self]
  rw [hnumeral]
  rfl

/-- A text with a character that neither numerals nor truth values have is kept. -/
theorem isKept_of_mem {text : String} {c : Char} (hc : c ∈ text.toList)
    (hforeign : ¬ Numeral.IsNumeralChar c) (htrue : c ∉ "true".toList) (hfalse : c ∉ "false".toList) :
    IsKept text := by
  refine isKept_of_split?_eq_none (Numeral.split?_eq_none_of_mem hc hforeign) ?_ ?_
  · rintro rfl
    exact htrue hc
  · rintro rfl
    exact hfalse hc

theorem isKept_of_email {text : String} (h : Format.email.isMatch text = true) : IsKept text :=
  isKept_of_mem (Format.at_mem_of_email h) (by decide) (by decide) (by decide)

theorem isKept_of_isWeb {text : String} (h : Url.isWeb text = true) : IsKept text :=
  isKept_of_mem (Url.colon_mem_of_isWeb h) (by decide) (by decide) (by decide)

/-- A decimal digit of any script is no sign, point or exponent mark. -/
theorem notMem_of_digit {c : Char} (h : Pattern.CharSet.digits.contains c = true) :
    c ∉ ['+', '-', '.', 'e', 'E'] := by
  intro hmem
  simp only [List.mem_cons, List.not_mem_nil, or_false] at hmem
  rcases hmem with rfl | rfl | rfl | rfl | rfl <;> exact absurd h (by decide)

/-- A hyphen after a year is no sign of an exponent. -/
theorem isKept_of_hasYear {text : String} (h : Format.HasYear text) : IsKept text := by
  obtain ⟨hlength, hhyphen⟩ := List.getElem?_eq_some_iff.1 h.hyphen
  have htext : text.toList = text.toList.take 4 ++ '-' :: text.toList.drop 5 := by
    rw [← hhyphen, ← List.drop_eq_getElem_cons, List.take_append_drop]
  have hyear : ∀ c ∈ text.toList.take 4, c ∉ ['+', '-', '.', 'e', 'E'] := by
    intro c hc
    obtain ⟨m, hm, hget⟩ := List.mem_take_iff_getElem.1 hc
    obtain ⟨d, hd, hdigit⟩ := (Option.any_eq_true _ _).1 (h.year m (by omega))
    rw [List.getElem?_eq_getElem (by omega), hget] at hd
    obtain rfl := Option.some.inj hd
    exact notMem_of_digit hdigit
  have hne : text.toList.take 4 ≠ [] := by
    apply List.ne_nil_of_length_pos
    rw [List.length_take]
    omega
  have hmem : '-' ∈ text.toList := List.mem_of_getElem? h.hyphen
  refine isKept_of_split?_eq_none ?_ ?_ ?_
  · rw [htext]
    exact Numeral.split?_eq_none_of_hyphen hne hyear
  · rintro rfl
    exact absurd hmem (by decide)
  · rintro rfl
    exact absurd hmem (by decide)

theorem isKept_of_date {text : String} (h : Format.date.isMatch text = true) : IsKept text :=
  isKept_of_hasYear (Format.hasYear_of_date h)

theorem isKept_of_dateTime {text : String} (h : Format.dateTime.isMatch text = true) : IsKept text :=
  isKept_of_hasYear (Format.hasYear_of_dateTime h)

end Coercion

/-! ## Rules for texts -/

/-- A rule lists a value. -/
def Rule.Lists (rule : Rule) (value : Json) : Prop :=
  ∃ values, rule.option? "values" = some (.array values) ∧ ∃ listed ∈ values, value.same listed = true

namespace Checker

variable {checker : Checker} {rule : Rule} {text : String}

/-- A fixed pattern accepts the texts that it matches. -/
theorem checkFormat_eq_ok_iff {pattern : Pattern} {message : String} {value : Json} :
    checkFormat pattern message value = .ok () ↔
      ∃ text, value = .string text ∧ pattern.isMatch text = true := by
  unfold checkFormat
  rw [ensure_eq_ok_iff]
  cases value with
  | string text => simp [Json.asString?]
  | null | bool | number | array | object => simp [Json.asString?]

/-- A pattern for whole texts accepts the texts of its language. -/
theorem checkFormat_whole_eq_ok_iff {body : Pattern} (hbody : body.isUnconditional = true)
    {message : String} {value : Json} :
    checkFormat (Pattern.whole body) message value = .ok () ↔
      ∃ text, value = .string text ∧ text.toList ∈ body.language := by
  simp only [checkFormat_eq_ok_iff, Pattern.isMatch_whole_iff_mem_language hbody]

/-- An enumeration accepts the values that it lists. -/
theorem checkEnumeration_eq_ok_iff {value : Json} :
    checkEnumeration rule value = .ok () ↔ rule.Lists value := by
  unfold checkEnumeration Rule.Lists
  cases hvalues : (rule.option? "values").bind Json.asArray? with
  | none =>
    refine iff_of_false (by simp) ?_
    rintro ⟨values, hoption, _⟩
    rw [hoption] at hvalues
    cases hvalues
  | some values =>
    obtain ⟨option, hoption, harray⟩ := Option.bind_eq_some_iff.1 hvalues
    cases option with
    | array items =>
      obtain rfl : items = values := Option.some.inj harray
      simp [ensure_eq_ok_iff, hoption]
    | null | bool | number | string | object => cases harray

/-- The texts that rules for addresses and dates accept are kept by coercion. -/
theorem isKept_of_check {kind : Kind} (hkind : rule.kind.bind Kind.ofName? = some kind)
    (hformat : kind ∈ [Kind.email, .url, .date, .dateTime])
    (haccepts : checker.check rule (.string text) = .ok ()) : Coercion.IsKept text := by
  rw [check_eq_checkKind hkind] at haccepts
  simp only [List.mem_cons, List.not_mem_nil, or_false] at hformat
  rcases hformat with rfl | rfl | rfl | rfl <;>
    simp only [checkKind, checkFormat, Json.asString?, Option.any_some, ensure_eq_ok_iff] at haccepts
  · exact Coercion.isKept_of_email haccepts
  · exact Coercion.isKept_of_isWeb haccepts
  · exact Coercion.isKept_of_date haccepts
  · exact Coercion.isKept_of_dateTime haccepts

/-- A text that a rule accepts is accepted after coercion when the rule asks for an address or a date,
when coercion keeps the text, and with an enumeration when it lists the coerced value. -/
theorem acceptsCoerced {kind : Kind} (hkind : rule.kind.bind Kind.ofName? = some kind)
    (haccepts : checker.check rule (.string text) = .ok ()) :
    (kind ∈ [Kind.email, .url, .date, .dateTime] →
      checker.check rule (Coercion.value text) = .ok ()) ∧
    (Coercion.IsKept text → checker.check rule (Coercion.value text) = .ok ()) ∧
    (kind = .enumeration → (checker.check rule (Coercion.value text) = .ok () ↔
      rule.Lists (Coercion.value text))) := by
  have hkept : Coercion.IsKept text → checker.check rule (Coercion.value text) = .ok () := by
    intro h
    rw [h.value_eq]
    exact haccepts
  refine ⟨fun hformat => hkept (isKept_of_check hkind hformat haccepts), hkept, ?_⟩
  rintro rfl
  rw [check_eq_checkKind hkind]
  exact checkEnumeration_eq_ok_iff

/-! ### Dates, enumerations and identifiers -/

/-- A date is matched by its digits and hyphens. -/
theorem isMatch_newYear : Format.date.isMatch "2024-01-01" = true := by
  have hyear : (Format.digits 4).Spans "2024-01-01".toList.toArray 0 4 :=
    Pattern.spans_exactly_one_iff.2 ⟨rfl, by decide⟩
  have hmonth : (Format.digits 2).Spans "2024-01-01".toList.toArray 5 7 :=
    Pattern.spans_exactly_one_iff.2 ⟨rfl, by decide⟩
  have hday : (Format.digits 2).Spans "2024-01-01".toList.toArray 8 10 :=
    Pattern.spans_exactly_one_iff.2 ⟨rfl, by decide⟩
  have hfirst : (Pattern.char '-').Spans "2024-01-01".toList.toArray 4 5 :=
    Pattern.spans_char_iff.2 ⟨rfl, rfl⟩
  have hsecond : (Pattern.char '-').Spans "2024-01-01".toList.toArray 7 8 :=
    Pattern.spans_char_iff.2 ⟨rfl, rfl⟩
  exact Pattern.isMatch_whole_iff.2 ⟨4, hyear, 5, hfirst, 7, hmonth, 8, hsecond, hday⟩

/-- A rule for dates. -/
def dateRule : Rule :=
  ⟨some "date", true, []⟩

/-- A date is accepted after coercion. -/
theorem newYear_acceptsCoerced :
    (Checker.fresh true).check dateRule (Coercion.value "2024-01-01") = .ok () := by
  have hkind : dateRule.kind.bind Kind.ofName? = some .date := rfl
  have haccepts : (Checker.fresh true).check dateRule (.string "2024-01-01") = .ok () := by
    rw [check_eq_checkKind hkind]
    simp [checkKind, checkFormat, Json.asString?, ensure, isMatch_newYear]
  exact (acceptsCoerced hkind haccepts).1 (by decide)

/-- A rule that is fit for use accepts a text, but not what the text is coerced to. -/
def IsRefusedCoerced (rule : Rule) (text : String) : Prop :=
  (Checker.fresh true).prepare [("value", rule)] = (Checker.fresh true, none) ∧
    (Checker.fresh true).check rule (.string text) = .ok () ∧
      (Checker.fresh true).check rule (Coercion.value text) ≠ .ok ()

/-- A text of digits is an identifier. -/
theorem isMatch_digits : Format.id.isMatch "123" = true := by
  have hdigits : Pattern.Steps (Format.digit.Spans "123".toList.toArray) 3 0 3 :=
    Pattern.steps_one_iff.2 ⟨rfl, by decide⟩
  exact Pattern.isMatch_whole_iff.2 ⟨3, by decide, by simp, hdigits⟩

/-- An enumeration of texts and a rule for identifiers accept a numeral as a text only. -/
theorem refusesCoerced :
    IsRefusedCoerced ⟨some "enum", true, [("values", .array [.string "1"])]⟩ "1" ∧
      IsRefusedCoerced ⟨some "id", true, []⟩ "123" := by
  have hone : Coercion.value "1" = .number (.integer 1) := rfl
  have hdigits : Coercion.value "123" = .number (.integer 123) := rfl
  have hkind : (⟨some "id", true, []⟩ : Rule).kind.bind Kind.ofName? = some .id := rfl
  refine ⟨⟨rfl, rfl, ?_⟩, ⟨rfl, ?_, ?_⟩⟩
  · rw [hone]
    intro h
    cases h
  · rw [check_eq_checkKind hkind]
    simp [checkKind, checkFormat, Json.asString?, ensure, isMatch_digits]
  · rw [hdigits]
    intro h
    cases h

end Checker
end RequestGate
