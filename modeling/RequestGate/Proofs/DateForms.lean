import Mathlib.Data.Bool.AllAny
import RequestGate.Proofs.TextFormats

/-!
# Forms of identifiers and dates

Rules for identifiers, for dates and for dates with a time accept the texts of a form: digits, with other
characters between them at fixed places.  A digit is a decimal digit of any script.  Where a text has
digits of ASCII only, it has the form with digits of any script exactly when it has the one with digits
of ASCII.

Main results:

- Theorem `Format.language_id`, `Format.language_date`, `Format.language_dateTime`: the languages of the
  patterns are the forms.
- Theorem `Format.agreeOn_form`: forms agree on the texts on whose digits they agree.
- Theorem `Checker.accepts_form_iff`: what rules for identifiers and dates accept.
- Theorem `Checker.acceptsForeignDigits`: they accept digits of other scripts.
-/

namespace RequestGate
namespace Format

open Computability Pattern

/-! ## Forms -/

section Forms

variable (digit : Language Char)

/-- `[0-9]+`. -/
def idForm : Language Char :=
  digit * digit∗

/-- `[0-9]{4}-[0-9]{2}-[0-9]{2}`. -/
def dateForm : Language Char :=
  digit ^ 4 * {['-']} * digit ^ 2 * {['-']} * digit ^ 2

/-- `[0-9]{2}:[0-9]{2}:[0-9]{2}(\.[0-9]+)?`. -/
def clockForm : Language Char :=
  digit ^ 2 * {[':']} * digit ^ 2 * {[':']} * digit ^ 2 * (1 + {['.']} * (digit * digit∗))

/-- `[Zz]|[+-][0-9]{2}:?[0-9]{2}`. -/
def zoneForm : Language Char :=
  singles (· ∈ ['Z', 'z']) + singles (· ∈ ['+', '-']) * digit ^ 2 * (1 + {[':']}) * digit ^ 2

/-- A date, one of `[Tt ]`, a time and possibly a zone. -/
def dateTimeForm : Language Char :=
  dateForm digit * singles (· ∈ ['T', 't', ' ']) * clockForm digit * (1 + zoneForm digit)

end Forms

/-- The digits of all scripts. -/
def decimalDigits : Language Char :=
  singles fun c => CharSet.digits.contains c = true

/-- The digits of ASCII. -/
def asciiDigits : Language Char :=
  singles fun c => c.isDigit = true

/-! ## Patterns of the forms -/

theorem language_oneOf (chars : String) : (oneOf chars).language = singles (· ∈ chars.toList) := by
  have hempty : ∀ c, CharSet.empty.contains c = false := fun _ => rfl
  unfold oneOf language
  refine singles_congr fun c => ?_
  rw [contains_foldr_single, hempty]
  simp

theorem language_digit : digit.language = decimalDigits :=
  rfl

theorem language_digits (count : Nat) : (digits count).language = decimalDigits ^ count := by
  unfold digits
  rw [language_exactly, language_digit]

/-- The pattern of identifiers has their form. -/
theorem language_id : (oneOrMore digit).language = idForm decimalDigits := by
  rw [language_oneOrMore, language_digit, idForm]

/-- The pattern of dates has their form. -/
theorem language_date : calendarDay.language = dateForm decimalDigits := by
  simp only [calendarDay, dateForm, sequenceAll, language, language_digits, language_char, mul_assoc]

theorem language_clockTime : clockTime.language = clockForm decimalDigits := by
  simp only [clockTime, clockForm, sequenceAll, language, language_digits, language_char,
    language_optional, language_oneOrMore, language_digit, mul_assoc]

theorem language_zone : zone.language = zoneForm decimalDigits := by
  have hletters : "Zz".toList = ['Z', 'z'] := rfl
  have hsigns : "+-".toList = ['+', '-'] := rfl
  simp only [zone, zoneForm, sequenceAll, language, language_digits, language_char, language_optional,
    language_oneOf, hletters, hsigns, mul_assoc]

/-- The pattern of dates with a time has their form. -/
theorem language_dateTime :
    (sequenceAll [calendarDay, oneOf "Tt ", clockTime, optional zone]).language =
      dateTimeForm decimalDigits := by
  have hmarks : "Tt ".toList = ['T', 't', ' '] := rfl
  simp only [dateTimeForm, sequenceAll, language, language_date, language_clockTime, language_zone,
    language_optional, language_oneOf, hmarks, mul_assoc]

/-! ## Texts with digits of one script -/

/-- Two languages have the same texts among those of some characters. -/
def AgreeOn (p : Char → Prop) (first second : Language Char) : Prop :=
  ∀ text : List Char, (∀ c ∈ text, p c) → (text ∈ first ↔ text ∈ second)

namespace AgreeOn

variable {p : Char → Prop} {K L M N : Language Char}

theorem refl (p : Char → Prop) (L : Language Char) : AgreeOn p L L := fun _ _ => Iff.rfl

theorem symm (h : AgreeOn p L M) : AgreeOn p M L := fun text htext => (h text htext).symm

theorem add (h : AgreeOn p K L) (h' : AgreeOn p M N) : AgreeOn p (K + M) (L + N) := by
  intro text htext
  rw [Language.mem_add, Language.mem_add, h text htext, h' text htext]

theorem mul (h : AgreeOn p K L) (h' : AgreeOn p M N) : AgreeOn p (K * M) (L * N) := by
  intro text htext
  rw [Language.mem_mul, Language.mem_mul]
  constructor
  · rintro ⟨first, hfirst, second, hsecond, rfl⟩
    obtain ⟨hleft, hright⟩ := List.forall_mem_append.1 htext
    exact ⟨first, (h first hleft).1 hfirst, second, (h' second hright).1 hsecond, rfl⟩
  · rintro ⟨first, hfirst, second, hsecond, rfl⟩
    obtain ⟨hleft, hright⟩ := List.forall_mem_append.1 htext
    exact ⟨first, (h first hleft).2 hfirst, second, (h' second hright).2 hsecond, rfl⟩

theorem pow (h : AgreeOn p L M) (n : Nat) : AgreeOn p (L ^ n) (M ^ n) := by
  induction n with
  | zero =>
    rw [pow_zero, pow_zero]
    exact refl p 1
  | succ n ih =>
    rw [pow_succ, pow_succ]
    exact ih.mul h

theorem kstar (h : AgreeOn p L M) : AgreeOn p L∗ M∗ := by
  intro text htext
  rw [Language.kstar_eq_iSup_pow, Language.kstar_eq_iSup_pow, Language.mem_iSup, Language.mem_iSup]
  exact exists_congr fun n => h.pow n text htext

theorem dateForm (h : AgreeOn p L M) : AgreeOn p (dateForm L) (dateForm M) :=
  ((((h.pow 4).mul (refl p _)).mul (h.pow 2)).mul (refl p _)).mul (h.pow 2)

theorem clockForm (h : AgreeOn p L M) : AgreeOn p (clockForm L) (clockForm M) :=
  (((((h.pow 2).mul (refl p _)).mul (h.pow 2)).mul (refl p _)).mul (h.pow 2)).mul
    ((refl p 1).add ((refl p _).mul (h.mul h.kstar)))

theorem zoneForm (h : AgreeOn p L M) : AgreeOn p (zoneForm L) (zoneForm M) :=
  (refl p _).add ((((refl p _).mul (h.pow 2)).mul (refl p _)).mul (h.pow 2))

theorem dateTimeForm (h : AgreeOn p L M) : AgreeOn p (dateTimeForm L) (dateTimeForm M) :=
  ((h.dateForm.mul (refl p _)).mul h.clockForm).mul ((refl p 1).add h.zoneForm)

end AgreeOn

/-- A digit of ASCII is a decimal digit. -/
theorem contains_digits_of_isDigit {c : Char} (h : c.isDigit = true) :
    CharSet.digits.contains c = true := by
  obtain ⟨hleast, hmost⟩ := Numeral.code_of_isDigit h
  show Unicode.Ranges.contains c.toNat Unicode.digitRanges = true
  unfold Unicode.digitRanges Unicode.Ranges.contains
  rw [if_neg (Nat.not_lt.2 hleast), if_pos hmost]

/-- Digits of all scripts and those of ASCII are the same in texts without digits of another script. -/
theorem agreeOn_digits :
    AgreeOn (fun c => CharSet.digits.contains c = true → c.isDigit = true) decimalDigits
      asciiDigits := by
  intro text htext
  constructor
  · rintro ⟨c, hc, rfl⟩
    exact ⟨c, htext c List.mem_cons_self hc, rfl⟩
  · rintro ⟨c, hc, rfl⟩
    exact ⟨c, contains_digits_of_isDigit hc, rfl⟩

/-! ## Texts of the forms -/

theorem mem_dateForm {digit : Language Char} {year month day : List Char} (hyear : year ∈ digit ^ 4)
    (hmonth : month ∈ digit ^ 2) (hday : day ∈ digit ^ 2) :
    year ++ ['-'] ++ month ++ ['-'] ++ day ∈ dateForm digit :=
  Language.append_mem_mul (Language.append_mem_mul (Language.append_mem_mul
    (Language.append_mem_mul hyear rfl) hmonth) rfl) hday

theorem mem_clockForm {digit : Language Char} {hour minute second fraction : List Char}
    (hhour : hour ∈ digit ^ 2) (hminute : minute ∈ digit ^ 2) (hsecond : second ∈ digit ^ 2)
    (hfraction : fraction ∈ 1 + {['.']} * (digit * digit∗)) :
    hour ++ [':'] ++ minute ++ [':'] ++ second ++ fraction ∈ clockForm digit :=
  Language.append_mem_mul (Language.append_mem_mul (Language.append_mem_mul
    (Language.append_mem_mul (Language.append_mem_mul hhour rfl) hminute) rfl) hsecond) hfraction

theorem mem_dateTimeForm {digit : Language Char} {date clock zone : List Char} {mark : Char}
    (hdate : date ∈ dateForm digit) (hmark : mark ∈ ['T', 't', ' ']) (hclock : clock ∈ clockForm digit)
    (hzone : zone ∈ 1 + zoneForm digit) : date ++ [mark] ++ clock ++ zone ∈ dateTimeForm digit :=
  Language.append_mem_mul (Language.append_mem_mul (Language.append_mem_mul hdate
    ⟨mark, hmark, rfl⟩) hclock) hzone

/-- Two characters with a property. -/
theorem pair_mem {p : Char → Prop} {c d : Char} (hc : p c) (hd : p d) :
    [c, d] ∈ singles p ^ 2 :=
  mem_singles_pow.2 ⟨rfl, by simp [hc, hd]⟩

/-- Four characters with a property. -/
theorem four_mem {p : Char → Prop} {a b c d : Char} (ha : p a) (hb : p b) (hc : p c) (hd : p d) :
    [a, b, c, d] ∈ singles p ^ 4 :=
  mem_singles_pow.2 ⟨rfl, by simp [ha, hb, hc, hd]⟩

end Format

/-! ## Rules for identifiers and dates -/

open Computability Format

/-- The form of the texts of a kind, given what digits are. -/
def Kind.form? : Kind → Option (Language Char → Language Char)
  | .id => some idForm
  | .date => some dateForm
  | .dateTime => some dateTimeForm
  | _ => none

namespace Checker

variable {checker : Checker} {rule : Rule}

/-- Rules for identifiers and dates accept the texts of their form with digits of all scripts. -/
theorem accepts_decimalForm_iff {kind : Kind} {form : Language Char → Language Char}
    (hkind : rule.kind.bind Kind.ofName? = some kind) (hform : kind.form? = some form) (value : Json) :
    checker.check rule value = .ok () ↔
      ∃ text, value = .string text ∧ text.toList ∈ form decimalDigits := by
  rw [check_eq_checkKind hkind]
  cases kind with
  | id =>
    obtain rfl := Option.some.inj hform
    rw [← language_id]
    exact checkFormat_whole_eq_ok_iff rfl
  | date =>
    obtain rfl := Option.some.inj hform
    rw [← language_date]
    exact checkFormat_whole_eq_ok_iff rfl
  | dateTime =>
    obtain rfl := Option.some.inj hform
    rw [← language_dateTime]
    exact checkFormat_whole_eq_ok_iff rfl
  | _ => cases hform

/-- The forms agree on texts on whose digits they agree. -/
theorem agreeOn_form {kind : Kind} {form : Language Char → Language Char}
    (hform : kind.form? = some form) {p : Char → Prop} {L M : Language Char} (h : AgreeOn p L M) :
    AgreeOn p (form L) (form M) := by
  cases kind with
  | id =>
    obtain rfl := Option.some.inj hform
    exact h.mul h.kstar
  | date =>
    obtain rfl := Option.some.inj hform
    exact h.dateForm
  | dateTime =>
    obtain rfl := Option.some.inj hform
    exact h.dateTimeForm
  | _ => cases hform

/-- A text has no decimal digits but those of ASCII. -/
def HasAsciiDigitsOnly (text : String) : Prop :=
  ∀ c ∈ text.toList, Pattern.CharSet.digits.contains c = true → c.isDigit = true

/-- Rules for identifiers, dates and dates with a time accept the texts of their form with decimal digits
of all scripts, and nothing else; of the texts without digits of another script than ASCII these are the
ones of the form with digits of ASCII. -/
theorem accepts_form_iff {kind : Kind} {form : Language Char → Language Char}
    (hkind : rule.kind.bind Kind.ofName? = some kind) (hform : kind.form? = some form) (value : Json) :
    (checker.check rule value = .ok () ↔
      ∃ text, value = .string text ∧ text.toList ∈ form decimalDigits) ∧
    ((∀ text, value = .string text → HasAsciiDigitsOnly text) →
      (checker.check rule value = .ok () ↔
        ∃ text, value = .string text ∧ text.toList ∈ form asciiDigits)) := by
  have haccepts : checker.check rule value = .ok () ↔
      ∃ text, value = .string text ∧ text.toList ∈ form decimalDigits :=
    accepts_decimalForm_iff hkind hform value
  refine ⟨haccepts, fun hdigits => haccepts.trans (exists_congr fun text => ?_)⟩
  exact and_congr_right fun htext => agreeOn_form hform agreeOn_digits _ (hdigits text htext)

/-! ### Digits of ASCII and of other scripts -/

/-- No form has a text without digits. -/
theorem form_zero {kind : Kind} {form : Language Char → Language Char} (hform : kind.form? = some form) :
    form 0 = 0 := by
  cases kind with
  | id =>
    obtain rfl := Option.some.inj hform
    simp [idForm]
  | date =>
    obtain rfl := Option.some.inj hform
    simp [dateForm]
  | dateTime =>
    obtain rfl := Option.some.inj hform
    simp [dateTimeForm, dateForm]
  | _ => cases hform

/-- A text without digits of ASCII is in no form with digits of ASCII. -/
theorem notMem_form_asciiDigits {kind : Kind} {form : Language Char → Language Char}
    (hform : kind.form? = some form) {text : List Char} (htext : ∀ c ∈ text, c.isDigit = false) :
    text ∉ form asciiDigits := by
  have hnone : AgreeOn (fun c => c.isDigit = false) asciiDigits 0 := by
    intro text htext
    refine iff_of_false ?_ (Language.notMem_zero text)
    rintro ⟨c, hc, rfl⟩
    rw [htext c List.mem_cons_self] at hc
    cases hc
  rw [agreeOn_form hform hnone text htext, form_zero hform]
  exact Language.notMem_zero text

/-- A date and a time with a fraction are accepted by a rule for both. -/
theorem seen_accepts_form_iff :
    (Checker.fresh false).check ⟨some "date-time", true, []⟩
      (.string "2024-01-02 03:04:05.25Z") = .ok () := by
  have hdigits : HasAsciiDigitsOnly "2024-01-02 03:04:05.25Z" := by
    unfold HasAsciiDigitsOnly
    exact List.all_iff_forall_prop.1 (by decide)
  have hdate : ['2', '0', '2', '4'] ++ ['-'] ++ ['0', '1'] ++ ['-'] ++ ['0', '2'] ∈
      dateForm asciiDigits :=
    mem_dateForm (four_mem rfl rfl rfl rfl) (pair_mem rfl rfl) (pair_mem rfl rfl)
  have hfraction : ['.'] ++ ['2', '5'] ∈ (1 + {['.']} * (asciiDigits * asciiDigits∗) : Language Char) :=
    Or.inr (Language.append_mem_mul (rfl : ['.'] ∈ ({['.']} : Language Char))
      (Pattern.mem_singles_mul_kstar.2 ⟨by decide, List.all_iff_forall_prop.1 (by decide)⟩))
  have hclock : ['0', '3'] ++ [':'] ++ ['0', '4'] ++ [':'] ++ ['0', '5'] ++ (['.'] ++ ['2', '5']) ∈
      clockForm asciiDigits :=
    mem_clockForm (pair_mem rfl rfl) (pair_mem rfl rfl) (pair_mem rfl rfl) hfraction
  have hzone : ['Z'] ∈ (1 + zoneForm asciiDigits : Language Char) :=
    Or.inr (Or.inl ⟨'Z', by decide, rfl⟩)
  have hform := mem_dateTimeForm hdate (by decide : ' ' ∈ ['T', 't', ' ']) hclock hzone
  have hkind : (some "date-time").bind Kind.ofName? = some .dateTime := rfl
  refine ((accepts_form_iff hkind rfl _).2 ?_).2 ⟨_, rfl, hform⟩
  rintro text htext
  cases htext
  exact hdigits

/-- A rule accepts a text that is not in a form. -/
def AcceptsBeyond (rule : Rule) (form : Language Char) (text : String) : Prop :=
  (Checker.fresh false).check rule (.string text) = .ok () ∧ text.toList ∉ form

/-- A rule accepts a text of its form that has no digits of ASCII, but other ones. -/
theorem acceptsBeyond_of_mem {kind : Kind} {form : Language Char → Language Char} {text : String}
    (hkind : rule.kind.bind Kind.ofName? = some kind) (hform : kind.form? = some form)
    (hmem : text.toList ∈ form decimalDigits) (hdigits : ∀ c ∈ text.toList, c.isDigit = false) :
    AcceptsBeyond rule (form asciiDigits) text :=
  ⟨(accepts_decimalForm_iff hkind hform _).2 ⟨text, rfl, hmem⟩, notMem_form_asciiDigits hform hdigits⟩

/-- Rules for identifiers, dates and dates with a time accept texts with digits that are not of ASCII. -/
theorem acceptsForeignDigits :
    AcceptsBeyond ⟨some "id", true, []⟩ (idForm asciiDigits) "１２３" ∧
    AcceptsBeyond ⟨some "date", true, []⟩ (dateForm asciiDigits) "２０２４-０１-０２" ∧
    AcceptsBeyond ⟨some "dateTime", true, []⟩ (dateTimeForm asciiDigits) "２０２４-０１-０２T０３:０４:０５" := by
  have hid : ['１', '２', '３'] ∈ idForm decimalDigits :=
    Pattern.mem_singles_mul_kstar.2 ⟨by decide, List.all_iff_forall_prop.1 (by decide)⟩
  have hdate : ['２', '０', '２', '４'] ++ ['-'] ++ ['０', '１'] ++ ['-'] ++ ['０', '２'] ∈
      dateForm decimalDigits :=
    mem_dateForm (four_mem rfl rfl rfl rfl) (pair_mem rfl rfl) (pair_mem rfl rfl)
  have hclock : ['０', '３'] ++ [':'] ++ ['０', '４'] ++ [':'] ++ ['０', '５'] ++ [] ∈
      clockForm decimalDigits :=
    mem_clockForm (pair_mem rfl rfl) (pair_mem rfl rfl) (pair_mem rfl rfl) (Or.inl rfl)
  have hseen := mem_dateTimeForm hdate (by decide : 'T' ∈ ['T', 't', ' ']) hclock (Or.inl rfl)
  have hkinds : (some "id").bind Kind.ofName? = some .id ∧
      (some "date").bind Kind.ofName? = some .date ∧
      (some "dateTime").bind Kind.ofName? = some .dateTime := ⟨rfl, rfl, rfl⟩
  refine ⟨?_, ?_, ?_⟩
  · exact acceptsBeyond_of_mem hkinds.1 rfl hid (List.all_iff_forall_prop.1 (by decide))
  · exact acceptsBeyond_of_mem hkinds.2.1 rfl hdate (List.all_iff_forall_prop.1 (by decide))
  · exact acceptsBeyond_of_mem hkinds.2.2 rfl hseen (List.all_iff_forall_prop.1 (by decide))

end Checker
end RequestGate
