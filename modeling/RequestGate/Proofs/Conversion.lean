import Mathlib.Data.Nat.Digits.Defs
import RequestGate.Proofs.Binary64Value
import RequestGate.Proofs.Checking
import RequestGate.Proofs.NumeralScanner

/-!
# Coerced values and texts

A query text that denotes a number or a truth value is coerced before it is checked.  In other places
the checker converts the text itself.  Both read the same numeral, so they find the same number but for
the sign of zero, and a rule that asks for no text finds the same fault in either.

Main results:

- Theorem `Coercion.value_cases`, `Coercion.value_eq_number_iff`: what a text is coerced to.
- Theorem `Coercion.map_value_number?`: the number of a numeral has the value of the nearest double.
- Theorem `Checker.map_value_number?`: a converting checker reads the same value from a text and from
  what it is coerced to.
- Theorem `Checker.check_value`: rules that ask for no text have the same answer for both.
- Theorem `Checker.validate_bag`: coercing a bag changes nothing for such rules.
-/

namespace RequestGate
namespace Coercion

/-! ## What a text is coerced to -/

/-- A text is coerced to the number of a numeral, to a truth value or to itself. -/
theorem value_cases (text : String) :
    (∃ n number, numeral? text = some n ∧ number? n = some number ∧ value text = .number number) ∨
      (text = "true" ∧ value text = .bool true) ∨ (text = "false" ∧ value text = .bool false) ∨
        value text = .string text := by
  unfold value
  split
  case h_1 number hnumber =>
    obtain ⟨n, hn, hread⟩ := Option.bind_eq_some_iff.1 hnumber
    exact Or.inl ⟨n, number, hn, hread, rfl⟩
  case h_2 =>
    split
    case isTrue htrue => exact Or.inr (Or.inl ⟨htrue, rfl⟩)
    case isFalse =>
      split
      case isTrue hfalse => exact Or.inr (Or.inr (Or.inl ⟨hfalse, rfl⟩))
      case isFalse => exact Or.inr (Or.inr (Or.inr rfl))

/-- A text is coerced to a number exactly when it is a numeral with that number. -/
theorem value_eq_number_iff {text : String} {number : Number} :
    value text = .number number ↔ ∃ n, numeral? text = some n ∧ number? n = some number := by
  rw [← Option.bind_eq_some_iff]
  unfold value
  cases (numeral? text).bind number? with
  | some other => simp
  | none =>
    refine iff_of_false ?_ nofun
    dsimp only
    split
    case isTrue => nofun
    case isFalse => split <;> nofun

/-- No numeral is the text of a truth value. -/
theorem ne_of_numeral?_eq_some {text : String} {n : Numeral} (h : numeral? text = some n) :
    text ≠ "true" ∧ text ≠ "false" := by
  have htrue : numeral? "true" = none := by decide
  have hfalse : numeral? "false" = none := by decide
  constructor
  · rintro rfl
    rw [htrue] at h
    cases h
  · rintro rfl
    rw [hfalse] at h
    cases h

/-! ## Integers -/

/-- An integer is written without point and exponent, and has at most 64 bits. -/
theorem integer?_eq_some_iff {n : Numeral} {i : Int} :
    integer? n = some i ↔ (n.fraction = none ∧ n.exponent = none ∧ -2 ^ 63 ≤ i ∧ i < 2 ^ 63) ∧
      (if n.sign = some true then -(Numeral.value n.whole : Int) else Numeral.value n.whole) = i := by
  unfold integer?
  simp only [Nat.pow_eq, Option.ite_none_right_eq_some, Option.some.injEq, Nat.cast_pow, Nat.cast_ofNat]
  constructor
  · rintro ⟨h, rfl⟩
    exact ⟨h, rfl⟩
  · rintro ⟨h, rfl⟩
    exact ⟨h, rfl⟩

/-- The decimal of an integer has its digits and its sign. -/
theorem toDecimal_of_integer? {n : Numeral} {i : Int} (h : integer? n = some i) :
    n.toDecimal = ⟨n.sign = some true, i.natAbs, 0⟩ ∧
      i = if n.sign = some true then -(i.natAbs : Int) else i.natAbs := by
  obtain ⟨⟨hfraction, hexponent, -, -⟩, rfl⟩ := integer?_eq_some_iff.1 h
  by_cases hsign : n.sign = some true
  · simp [Numeral.toDecimal, Numeral.exponentValue, hfraction, hexponent, hsign]
  · simp [Numeral.toDecimal, Numeral.exponentValue, hfraction, hexponent, hsign]

/-- A decimal of at most 20 digits without exponent is rounded as the integer that it is. -/
theorem toBinary64?_natural {negative : Bool} {digits : Nat} (hdigits : digits ≠ 0)
    (hsmall : digits < 10 ^ 20) :
    Decimal.toBinary64? ⟨negative, digits, 0⟩ = Binary64.ofRatio negative digits 1 := by
  have hlength : Decimal.length digits ≤ 20 :=
    (Nat.length_toDigits_le_iff (by norm_num) (by norm_num)).2 hsmall
  unfold Decimal.toBinary64?
  simp only [Int.zero_add]
  rw [if_neg hdigits, if_neg (by omega), if_neg (by omega)]
  simp

/-- An integer is rounded as its decimal is, but for the sign of zero. -/
theorem map_value_integer? {n : Numeral} {i : Int} (h : integer? n = some i) :
    (Number.toBinary64? (.integer i)).map Binary64.value =
      n.toDecimal.toBinary64?.map Binary64.value := by
  obtain ⟨hdecimal, hsign⟩ := toDecimal_of_integer? h
  obtain ⟨⟨-, -, hleast, hbelow⟩, -⟩ := integer?_eq_some_iff.1 h
  rw [hdecimal]
  by_cases hzero : i = 0
  · subst hzero
    have hleft : Number.toBinary64? (.integer 0) = some (Binary64.zero false) := rfl
    have hright : Decimal.toBinary64? ⟨n.sign = some true, (0 : Int).natAbs, 0⟩ =
        some (Binary64.zero (n.sign = some true)) := rfl
    rw [hleft, hright, Option.map_some, Option.map_some, Binary64.value_zero, Binary64.value_zero]
  · have hnatAbs : i.natAbs ≠ 0 := Int.natAbs_ne_zero.2 hzero
    have hnegative : decide (i < 0) = decide (n.sign = some true) := by
      rw [decide_eq_decide]
      split at hsign
      case isTrue h => exact ⟨fun _ => h, fun _ => by omega⟩
      case isFalse h => exact ⟨fun _ => by omega, fun h' => absurd h' h⟩
    rw [toBinary64?_natural hnatAbs (by omega), ← hnegative]
    rfl

/-- A double keeps its value as a number: integers up to `2 ^ 53` are doubles. -/
theorem map_value_ofBinary64 (x : Binary64) :
    (ofBinary64 x).toBinary64?.map Binary64.value = some x.value := by
  unfold ofBinary64
  split
  case h_1 i hi =>
    split
    case isTrue hle =>
      obtain ⟨y, hy, hvalue⟩ := Binary64.exists_ofInt hle
      have hinteger : Number.toBinary64? (.integer i) = some y := hy
      rw [hinteger, Option.map_some, hvalue, Binary64.toInt?_eq_some_iff.1 hi]
    case isFalse => rfl
  case h_2 => rfl

/-- The number of a numeral has the value of the double that is nearest to the numeral. -/
theorem map_value_number? {n : Numeral} {number : Number} (h : number? n = some number) :
    number.toBinary64?.map Binary64.value = n.toDecimal.toBinary64?.map Binary64.value := by
  unfold number? at h
  split at h
  case h_1 i hinteger =>
    obtain rfl := Option.some.inj h
    exact map_value_integer? hinteger
  case h_2 =>
    obtain ⟨x, hx, rfl⟩ := Option.map_eq_some_iff.1 h
    rw [hx, map_value_ofBinary64, Option.map_some]

end Coercion

/-! ## Rules that ask for no text -/

/-- The values of a kind are texts. -/
def Kind.isTextual : Kind → Bool
  | .string | .enumeration | .email | .url | .date | .dateTime | .id => true
  | .integer | .number | .boolean | .array | .object | .file => false

/-- A rule names no kind whose values are texts. -/
def Rule.AsksForNoText (rule : Rule) : Prop :=
  ∀ kind, rule.kind.bind Kind.ofName? = some kind → kind.isTextual = false

namespace Checker

variable {checker : Checker}

/-- A converting checker reads a number of the same value from a text and from what the text is coerced
to. -/
theorem map_value_number? (hconvert : checker.convert = true) (text : String) :
    (checker.number? (Coercion.value text)).map Binary64.value =
      (checker.number? (.string text)).map Binary64.value := by
  have htext : checker.number? (.string text) = Numeral.readFree? (Blank.trim text).toList :=
    if_pos hconvert
  rw [htext]
  rcases Coercion.value_cases text with ⟨n, number, hn, hnumber, hvalue⟩ | ⟨rfl, hvalue⟩ |
    ⟨rfl, hvalue⟩ | hvalue
  · obtain ⟨hsplit, hnumeral⟩ := Coercion.numeral?_eq_some_iff.1 hn
    have hread : Numeral.readFree? text.toList = n.toDecimal.toBinary64? := by
      have hdigits : ¬ (n.whole = [] ∧ n.fraction.getD [] = []) := fun h => hnumeral.1 h.1
      unfold Numeral.readFree?
      rw [hsplit]
      exact if_neg hdigits
    rw [Numeral.trim_of_split? hsplit, hread, hvalue]
    exact Coercion.map_value_number? hnumber
  · have hread : Numeral.readFree? (Blank.trim "true").toList = none := by decide
    rw [hvalue, hread]
    rfl
  · have hread : Numeral.readFree? (Blank.trim "false").toList = none := by decide
    rw [hvalue, hread]
    rfl
  · rw [hvalue, htext]

/-- Numbers of one value are within the same bounds. -/
theorem checkBounds_congr {x y : Binary64} (h : x.value = y.value) (rule : Rule) (subject : String) :
    checkBounds rule x subject = checkBounds rule y subject := by
  unfold checkBounds
  simp only [Binary64.lt_congr_left h, Binary64.lt_congr_right h]

/-- Values with numbers of one value are the same to rules for numbers. -/
theorem checkKind_number_congr {first second : Json} (rule : Rule) (checkItem : Rule → Json → Check)
    (h : (checker.number? first).map Binary64.value = (checker.number? second).map Binary64.value) :
    checkKind checker rule checkItem first .number = checkKind checker rule checkItem second .number ∧
      checkKind checker rule checkItem first .integer =
        checkKind checker rule checkItem second .integer := by
  unfold checkKind
  cases hfirst : checker.number? first with
  | none =>
    rw [hfirst, Option.map_none, eq_comm, Option.map_eq_none_iff] at h
    rw [h]
    exact ⟨rfl, rfl⟩
  | some x =>
    rw [hfirst, Option.map_some, eq_comm] at h
    obtain ⟨y, hy, hvalue⟩ := Option.map_eq_some_iff.1 h
    have hbounds := checkBounds_congr hvalue rule "should be"
    have hinteger : y.toInt? = x.toInt? := Binary64.toInt?_congr hvalue
    simp only [hy, hbounds, Option.filter, hinteger, true_and]
    by_cases hsome : x.toInt?.isSome = true
    · simp only [if_pos hsome, hbounds]
    · simp only [if_neg hsome]

/-- A converting checker takes a text for a truth value when it is coerced to one. -/
theorem isBoolean_value (hconvert : checker.convert = true) (text : String) :
    checker.isBoolean (Coercion.value text) = checker.isBoolean (.string text) := by
  rcases Coercion.value_cases text with ⟨n, number, hn, _, hvalue⟩ | ⟨rfl, hvalue⟩ | ⟨rfl, hvalue⟩ |
    hvalue
  · obtain ⟨htrue, hfalse⟩ := Coercion.ne_of_numeral?_eq_some hn
    rw [hvalue]
    simp [isBoolean, htrue, hfalse]
  · rw [hvalue]
    simp [isBoolean, hconvert]
  · rw [hvalue]
    simp [isBoolean, hconvert]
  · rw [hvalue]

/-- A text and what it is coerced to are the same to kinds whose values are no texts. -/
theorem checkKind_value (hconvert : checker.convert = true) (rule : Rule)
    (checkItem : Rule → Json → Check) (text : String) {kind : Kind} (hkind : kind.isTextual = false) :
    checkKind checker rule checkItem (Coercion.value text) kind =
      checkKind checker rule checkItem (.string text) kind := by
  have hnumber := checkKind_number_congr rule checkItem (map_value_number? hconvert text)
  cases kind with
  | number => exact hnumber.1
  | integer => exact hnumber.2
  | string | enumeration | email | url | date | dateTime | id => cases hkind
  | file => rfl
  | boolean =>
    have hboolean : checker.isBoolean (Coercion.value text) = checker.isBoolean (.string text) :=
      isBoolean_value hconvert text
    exact congrArg (ensure · "should be a boolean") hboolean
  | array =>
    have harray : (Coercion.value text).asArray? = (Json.string text).asArray? := by
      rcases Coercion.value_cases text with ⟨_, _, _, _, h⟩ | ⟨_, h⟩ | ⟨_, h⟩ | h <;> rw [h] <;> rfl
    simp only [checkKind, harray]
  | object =>
    have hobject : (Coercion.value text).isObject = (Json.string text).isObject := by
      rcases Coercion.value_cases text with ⟨_, _, _, _, h⟩ | ⟨_, h⟩ | ⟨_, h⟩ | h <;> rw [h] <;> rfl
    simp only [checkKind, hobject]

/-- A rule that asks for no text has the same answer for a text and for what it is coerced to. -/
theorem check_value (hconvert : checker.convert = true) {rule : Rule} (hrule : rule.AsksForNoText)
    (text : String) : checker.check rule (Coercion.value text) = checker.check rule (.string text) := by
  unfold check checkWith
  cases hname : rule.kind with
  | none => rfl
  | some name =>
    cases hkind : Kind.ofName? name with
    | none => simp only [hkind]
    | some kind =>
      have htextual : kind.isTextual = false := hrule kind (by rw [hname, Option.bind_some, hkind])
      simp only [hkind]
      exact checkKind_value hconvert rule checker.checkItem text htextual

/-! ## Bags -/

theorem get?_bag (name : String) (data : Bag) :
    Fields.get? name (Coercion.bag data) = (Fields.get? name data).map Coercion.field := by
  induction data with
  | nil => rfl
  | cons entry data ih =>
    obtain ⟨key, value⟩ := entry
    have hcons : Coercion.bag ((key, value) :: data) =
        (key, Coercion.field value) :: Coercion.bag data := rfl
    rw [hcons, Fields.get?_cons, Fields.get?_cons, ih]
    split <;> rfl

theorem value_ne_null (text : String) : Coercion.value text ≠ .null := by
  rcases Coercion.value_cases text with ⟨_, _, _, _, h⟩ | ⟨_, h⟩ | ⟨_, h⟩ | h <;> rw [h] <;> simp

/-- A field with a rule that asks for no text fails alike in a bag and in the coerced bag. -/
theorem fieldError?_bag (hconvert : checker.convert = true) {entry : String × Rule}
    (hrule : entry.2.AsksForNoText) (data : Bag) :
    checker.fieldError? (Coercion.bag data) entry = checker.fieldError? data entry := by
  have hget := get?_bag entry.1 data
  cases hvalue : Fields.get? entry.1 data with
  | none =>
    rw [hvalue] at hget
    unfold fieldError?
    rw [hget, hvalue]
    rfl
  | some value =>
    rw [hvalue] at hget
    cases value with
    | string text =>
      rw [fieldError?_of_ne_null hget (value_ne_null text), fieldError?_of_ne_null hvalue (by simp),
        ← check_value hconvert hrule text]
      rfl
    | null | bool | number | array | object =>
      unfold fieldError?
      rw [hget, hvalue]
      rfl

/-- Rules that ask for no text find the same faults in the texts of a bag as in what they are coerced
to. -/
theorem validate_bag (hconvert : checker.convert = true) {rules : FieldRules}
    (hrules : ∀ entry ∈ rules, entry.2.AsksForNoText) (data : Bag) :
    checker.validate rules (Coercion.bag data) = checker.validate rules data := by
  have herrors : rules.filterMap (checker.fieldError? (Coercion.bag data)) =
      rules.filterMap (checker.fieldError? data) :=
    List.filterMap_congr fun entry hentry => fieldError?_bag hconvert (hrules entry hentry) data
  unfold validate
  rw [herrors]

/-- Rules for a number up to a hundred, a truth value and a field of any kind. -/
def pageRules : FieldRules :=
  [("page", ⟨some "integer", true, [("max", .number (.integer 100))]⟩),
    ("all", ⟨some "bool", false, []⟩), ("note", ⟨none, false, []⟩)]

/-- A page in another spelling, a truth value and a note that looks like a number. -/
def pageBag : Bag :=
  [("page", .string "1e3"), ("all", .string "TRUE"), ("note", .string "-0.0")]

/-- The coerced bag has the faults that the texts have: the page is beyond the last one, and a truth
value is written in small letters. -/
theorem page_validate_bag : (Checker.fresh true).validate pageRules (Coercion.bag pageBag) =
    .error ⟨[.invalid "page" "should be at most 100", .invalid "all" "should be a boolean"]⟩ := by
  have hrules : ∀ entry ∈ pageRules, entry.2.AsksForNoText := by
    unfold Rule.AsksForNoText
    decide
  have htexts : (Checker.fresh true).validate pageRules pageBag =
      .error ⟨[.invalid "page" "should be at most 100", .invalid "all" "should be a boolean"]⟩ := rfl
  rw [validate_bag rfl hrules pageBag, htexts]

end Checker
end RequestGate
