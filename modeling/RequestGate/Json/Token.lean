import RequestGate.Json.Basic

/-!
# Tokens of JSON text

The lexical half of reading JSON.  `tokens?` cuts a text into punctuation, texts and scalars and
refuses what JSON has no token for: control characters and lone surrogates in texts, unknown
escapes, unknown words, and numerals outside the JSON grammar or past the largest double.

A numeral with neither fraction nor exponent is an integer when it fits 64 bits; every other numeral
is a double.  The integer numeral `-0` is the double `-0.0`.

A double is computed in doubles: the first digits, as many as fit 64 bits, are rounded to a double, and
that is multiplied or divided by a power of ten.  Every step rounds, so the result need not be the
double that is nearest to the numeral.  Numerals whose product is past the largest double are refused.
-/

namespace RequestGate
namespace Json

/-- The parts of JSON text. -/
inductive Token where
  | openArray
  | closeArray
  | openObject
  | closeObject
  | comma
  | colon
  | text (s : String)
  /-- `null`, a truth value or a number. -/
  | scalar (value : Json)

namespace Token

/-- The blanks between tokens. -/
def isBlank (c : Char) : Bool :=
  c = ' ' || c = '\t' || c = '\n' || c = '\r'

/-- The value of a hexadecimal digit. -/
def hexValue? (c : Char) : Option Nat :=
  if '0' ≤ c ∧ c ≤ '9' then some (c.toNat - 0x30)
  else if 'A' ≤ c ∧ c ≤ 'F' then some (c.toNat - 0x41 + 10)
  else if 'a' ≤ c ∧ c ≤ 'f' then some (c.toNat - 0x61 + 10)
  else none

/-- The number that hexadecimal digits denote, after those already read. -/
def hexValueFrom? (n : Nat) : List Char → Option Nat
  | [] => some n
  | c :: rest => (hexValue? c).bind fun d => hexValueFrom? (n * 16 + d) rest

/-- Four hexadecimal digits and the rest. -/
def hexUnit? : List Char → Option (Nat × List Char)
  | a :: b :: c :: d :: rest => (hexValueFrom? 0 [a, b, c, d]).map (·, rest)
  | _ => none

/-- The character of a `\u` escape after its first four digits: a leading surrogate needs a trailing
one in an escape of its own, and a trailing surrogate may not stand alone. -/
def unicodeEscape? (unit : Nat) (rest : List Char) : Option (Char × List Char) :=
  if 0xD800 ≤ unit ∧ unit < 0xDC00 then
    match rest with
    | '\\' :: 'u' :: rest =>
      match hexUnit? rest with
      | some (low, rest) =>
        if 0xDC00 ≤ low ∧ low < 0xE000 then
          some (Char.ofNat (0x10000 + (unit - 0xD800) * 0x400 + (low - 0xDC00)), rest)
        else none
      | none => none
    | _ => none
  else if 0xDC00 ≤ unit ∧ unit < 0xE000 then none
  else some (Char.ofNat unit, rest)

/-- The character that an escape stands for, read after its backslash. -/
def escape? : List Char → Option (Char × List Char)
  | [] => none
  | c :: rest =>
    match c with
    | '"' => some ('"', rest)
    | '\\' => some ('\\', rest)
    | '/' => some ('/', rest)
    | 'b' => some ('\x08', rest)
    | 'f' => some ('\x0c', rest)
    | 'n' => some ('\n', rest)
    | 'r' => some ('\r', rest)
    | 't' => some ('\t', rest)
    | 'u' =>
      match hexUnit? rest with
      | some (unit, rest) => unicodeEscape? unit rest
      | none => none
    | _ => none

theorem length_of_hexUnit? {s rest : List Char} {unit : Nat} (h : hexUnit? s = some (unit, rest)) :
    rest.length ≤ s.length := by
  unfold hexUnit? at h
  split at h
  · simp only [Option.map_eq_some_iff, Prod.mk.injEq] at h
    obtain ⟨_, _, _, rfl⟩ := h
    simp only [List.length_cons]
    omega
  · cases h

theorem length_of_unicodeEscape? {s rest : List Char} {unit : Nat} {c : Char}
    (h : unicodeEscape? unit s = some (c, rest)) : rest.length ≤ s.length := by
  unfold unicodeEscape? at h
  split at h
  · split at h
    · split at h
      · rename_i hu
        have := length_of_hexUnit? hu
        split at h
        · simp only [Option.some.injEq, Prod.mk.injEq] at h
          rw [← h.2]
          simp only [List.length_cons]
          omega
        · cases h
      · cases h
    · cases h
  · split at h
    · cases h
    · simp only [Option.some.injEq, Prod.mk.injEq] at h
      exact Nat.le_of_eq (congrArg List.length h.2.symm)

theorem length_of_escape? {s rest : List Char} {c : Char} (h : escape? s = some (c, rest)) :
    rest.length < s.length := by
  cases s with
  | nil => cases h
  | cons d s =>
    simp only [escape?] at h
    split at h
    all_goals try (cases h; exact Nat.lt_succ_self _)
    all_goals try (cases h)
    split at h
    · rename_i hu
      have h1 := length_of_hexUnit? hu
      have h2 := length_of_unicodeEscape? h
      simp only [List.length_cons]
      omega
    · cases h

/-- A text up to its closing quote, read after the opening one, with the characters already read,
the latest first. -/
def textBody? (read : List Char) : List Char → Option (String × List Char)
  | [] => none
  | c :: rest =>
    if c = '"' then some (String.ofList read.reverse, rest)
    else if c = '\\' then
      match _h : escape? rest with
      | some (c, rest) => textBody? (c :: read) rest
      | none => none
    else if c < ' ' then none
    else textBody? (c :: read) rest
termination_by s => s.length
decreasing_by
  · have := length_of_escape? _h
    simp only [List.length_cons]
    omega
  · exact Nat.lt_succ_self _

theorem length_of_textBody? {read s rest : List Char} {text : String}
    (h : textBody? read s = some (text, rest)) : rest.length < s.length := by
  induction hn : s.length using Nat.strongRecOn generalizing read s with
  | ind n ih =>
    subst hn
    cases s with
    | nil => simp [textBody?] at h
    | cons c s =>
      rw [textBody?] at h
      split at h
      · cases h; exact Nat.lt_succ_self _
      · split at h
        · split at h
          · rename_i he
            have h1 := length_of_escape? he
            have h2 := ih _ (by simp only [List.length_cons]; omega) h rfl
            simp only [List.length_cons]
            omega
          · cases h
        · split at h
          · cases h
          · have := ih _ (Nat.lt_succ_self _) h rfl
            simp only [List.length_cons]
            omega

/-- A JSON numeral: whole digits without needless zeros, no plus sign, and a digit after the point. -/
def IsNumber (n : Numeral) : Prop :=
  n.sign ≠ some false ∧ n.whole ≠ [] ∧ (n.whole.head? = some '0' → n.whole.length = 1) ∧
    n.fraction ≠ some []

instance (n : Numeral) : Decidable (IsNumber n) :=
  inferInstanceAs (Decidable (_ ∧ _ ∧ _ ∧ _))

/-- The number of the digits that are read onto a number while it fits 64 bits, and the other digits. -/
def significand (read : Nat) : List Char → Nat × List Char
  | [] => (read, [])
  | c :: rest =>
    let next := 10 * read + (c.toNat - 0x30)
    if next < Nat.pow 2 64 then significand next rest else (read, c :: rest)

/-- The greatest power of ten that a double is multiplied or divided by at once. -/
def maxPower : Nat := 308

/-- A power of ten as a double. -/
def power? (exponent : Nat) : Option Binary64 :=
  Binary64.ofInt (Nat.pow 10 exponent)

/-- A double scaled by a power of ten.  A quotient by a power past the greatest one is divided by that
one first, until it is zero. -/
def scale? (x : Binary64) (exponent : Int) : Option Binary64 :=
  if exponent.natAbs ≤ maxPower then
    (power? exponent.natAbs).bind fun power => if 0 ≤ exponent then x.mul? power else x.div? power
  else if x.mantissa = 0 then some x
  else if 0 ≤ exponent then none
  else (power? maxPower).bind fun power =>
    (x.div? power).bind fun quotient => scale? quotient (exponent + maxPower)
termination_by (-exponent).toNat
decreasing_by
  unfold maxPower at *
  omega

/-- The double of a numeral.  Whole digits that are not read count as zeros; those of the fraction are
dropped. -/
def double? (n : Numeral) : Option Binary64 :=
  let fraction := n.fraction.getD []
  let (read, wholeRest) := significand 0 n.whole
  let (read, fractionRest) := significand read fraction
  let exponent := n.exponentValue + wholeRest.length - (fraction.length - fractionRest.length : Nat)
  (Binary64.ofRatio (n.sign = some true) read 1).bind (scale? · exponent)

/-- The number that a numeral denotes in JSON. -/
def number? (text : List Char) : Option Number := do
  let n ← Numeral.split? text
  if ¬ IsNumber n then none
  else
    let magnitude := Numeral.value n.whole
    let i : Int := if n.sign = some true then -(magnitude : Int) else magnitude
    if n.fraction = none ∧ n.exponent = none ∧ Number.InRange i ∧
        ¬ (n.sign = some true ∧ i = 0) then
      some (.integer i)
    else
      (double? n).map .double

/-- The value of a word. -/
def word? (text : List Char) : Option Json :=
  if text = "null".toList then some .null
  else if text = "true".toList then some (.bool true)
  else if text = "false".toList then some (.bool false)
  else none

/-- The characters of numerals. -/
def isNumeric (c : Char) : Bool :=
  c.isDigit || c = '-' || c = '+' || c = '.' || c = 'e' || c = 'E'

/-- The first token of a text that starts with no blank, and the rest. -/
def first? (c : Char) (rest : List Char) : Option (Token × List Char) :=
  match c with
  | '[' => some (.openArray, rest)
  | ']' => some (.closeArray, rest)
  | '{' => some (.openObject, rest)
  | '}' => some (.closeObject, rest)
  | ',' => some (.comma, rest)
  | ':' => some (.colon, rest)
  | '"' => (textBody? [] rest).map fun read => (.text read.1, read.2)
  | c =>
    if c.isDigit || c = '-' then
      (number? (c :: rest.takeWhile isNumeric)).map fun n =>
        (.scalar (.number n), rest.dropWhile isNumeric)
    else
      (word? (c :: rest.takeWhile Char.isAlpha)).map fun v => (.scalar v, rest.dropWhile Char.isAlpha)

theorem length_dropWhile_le (p : Char → Bool) (s : List Char) : (s.dropWhile p).length ≤ s.length :=
  (List.dropWhile_suffix p).length_le

theorem length_of_first? {c : Char} {s rest : List Char} {token : Token}
    (h : first? c s = some (token, rest)) : rest.length ≤ s.length := by
  unfold first? at h
  split at h
  all_goals try (cases h; exact Nat.le_refl _)
  · cases ht : textBody? [] s with
    | none => simp [ht] at h
    | some r =>
      simp only [ht, Option.map_some, Option.some.injEq, Prod.mk.injEq] at h
      rw [← h.2]
      exact Nat.le_of_lt (length_of_textBody? ht)
  · split at h
    · simp only [Option.map_eq_some_iff, Prod.mk.injEq] at h
      obtain ⟨_, _, _, rfl⟩ := h
      exact length_dropWhile_le _ _
    · simp only [Option.map_eq_some_iff, Prod.mk.injEq] at h
      obtain ⟨_, _, _, rfl⟩ := h
      exact length_dropWhile_le _ _

/-- The tokens of a text, with those already read, the latest first. -/
def tokensOnto? (read : List Token) : List Char → Option (List Token)
  | [] => some read.reverse
  | c :: rest =>
    if isBlank c then tokensOnto? read rest
    else
      match _h : first? c rest with
      | some (token, rest) => tokensOnto? (token :: read) rest
      | none => none
termination_by s => s.length
decreasing_by
  · exact Nat.lt_succ_self _
  · exact Nat.lt_succ_of_le (length_of_first? _h)

/-- The tokens of a text. -/
def tokens? (text : List Char) : Option (List Token) :=
  tokensOnto? [] text

end Token
end Json
end RequestGate
