import RequestGate.Json.Token
import RequestGate.Text.Pieces
import RequestGate.Toml.Value

/-!
# TOML scalars

The scalars that are written as one word (integers, floating-point numbers, truth values, dates and
times) and the texts, which are quoted in four ways: on one line or on several, and with escapes or
without.
-/

namespace RequestGate
namespace Toml

namespace Word

/-- The digits of a number, in which single underscores may stand between two of them. -/
def digits? (isDigit : Char → Bool) (text : List Char) : Option (List Char) :=
  let groups := Pieces.pieces '_' text
  if groups.all fun group => group ≠ [] && group.all isDigit then some groups.flatten else none

/-- The digits of a decimal integer, which has no needless zero. -/
def wholeDigits? (text : List Char) : Option (List Char) :=
  if text.head? = some '0' && text ≠ ['0'] then none else digits? Char.isDigit text

/-- The number that digits of a base denote. -/
def valueOf (base : Nat) (digits : List Char) : Nat :=
  digits.foldl (fun n c => n * base + (Json.Token.hexValue? c).getD 0) 0

/-- A magnitude with a sign, when it has at most 64 bits. -/
def signed? (negative : Bool) (magnitude : Nat) : Option Int :=
  let i : Int := if negative then -(magnitude : Int) else magnitude
  if -(Nat.pow 2 63) ≤ i ∧ i < Nat.pow 2 63 then some i else none

/-- The integer that a word is. -/
def integer? : List Char → Option Int
  | '0' :: 'x' :: rest =>
    (digits? (fun c => (Json.Token.hexValue? c).isSome) rest).bind fun d =>
      signed? false (valueOf 16 d)
  | '0' :: 'o' :: rest =>
    (digits? (fun c => '0' ≤ c && c ≤ '7') rest).bind fun d => signed? false (valueOf 8 d)
  | '0' :: 'b' :: rest =>
    (digits? (fun c => c = '0' || c = '1') rest).bind fun d => signed? false (valueOf 2 d)
  | word =>
    let (sign, rest) := Numeral.splitSign word
    (wholeDigits? rest).bind fun d => signed? (sign = some true) (valueOf 10 d)

/-- The exponent that follows its letter. -/
def exponent? (text : List Char) : Option (Option Bool × List Char) :=
  let (sign, rest) := Numeral.splitSign text
  (digits? Char.isDigit rest).map (sign, ·)

/-- The parts of a floating-point number with a fraction or an exponent. -/
def numeral? (word : List Char) : Option Numeral := do
  let (sign, rest) := Numeral.splitSign word
  let (mantissa, exponent) :=
    Pieces.cut 'e' (rest.map fun c => if c = 'E' then 'e' else c)
  let (whole, fraction) := Pieces.cut '.' mantissa
  if fraction.isNone && exponent.isNone then none
  else
    let whole ← wholeDigits? whole
    let fraction ← fraction.mapM (digits? Char.isDigit)
    let exponent ← exponent.mapM exponent?
    return ⟨sign, whole, fraction, exponent⟩

/-- The floating-point number that a word is, if it is one.  A value past the largest number is taken
only when it is negative. -/
def float? (word : List Char) : Option (Option Binary64) :=
  match numeral? word with
  | some n =>
    match n.toDecimal.toBinary64? with
    | some x => some (some x)
    | none => if n.sign = some true then some none else none
  | none =>
    let rest := (Numeral.splitSign word).2
    if rest = "inf".toList || rest = "nan".toList then some none else none

/-- A number written with exactly so many digits. -/
def fixed? (count : Nat) (text : List Char) : Option Nat :=
  if text.length = count && text.all Char.isDigit then some (Numeral.value text) else none

/-- How many days a month has. -/
def daysIn (year month : Nat) : Nat :=
  if month = 2 then
    if year % 4 = 0 ∧ (year % 100 ≠ 0 ∨ year % 400 = 0) then 29 else 28
  else if month = 4 ∨ month = 6 ∨ month = 9 ∨ month = 11 then 30
  else 31

/-- Whether a text is a date. -/
def isDate (text : List Char) : Bool :=
  match (Pieces.pieces '-' text) with
  | [year, month, day] =>
    match fixed? 4 year, fixed? 2 month, fixed? 2 day with
    | some year, some month, some day =>
      1 ≤ month && month ≤ 12 && 1 ≤ day && day ≤ daysIn year month
    | _, _, _ => false
  | _ => false

/-- Whether a text is a number of two digits up to a bound. -/
def isPair (most : Nat) (text : List Char) : Bool :=
  (fixed? 2 text).any (· ≤ most)

/-- Whether a text is an hour and a minute. -/
def isHourMinute (text : List Char) : Bool :=
  match Pieces.pieces ':' text with
  | [hour, minute] => isPair 23 hour && isPair 59 minute
  | _ => false

/-- Whether a text is a time of day. -/
def isTime (text : List Char) : Bool :=
  let (clock, fraction) := Pieces.cut '.' text
  fraction.all (fun digits => digits ≠ [] && digits.all Char.isDigit) &&
    match Pieces.pieces ':' clock with
    | [hour, minute, second] => isPair 23 hour && isPair 59 minute && isPair 60 second
    | _ => false

/-- Whether a text is a time of day, possibly with the difference to universal time. -/
def isZonedTime (text : List Char) : Bool :=
  match text.span fun c => c ≠ 'Z' && c ≠ 'z' && c ≠ '+' && c ≠ '-' with
  | (time, []) => isTime time
  | (time, mark :: rest) =>
    isTime time && if mark = 'Z' || mark = 'z' then rest = [] else isHourMinute rest

/-- Whether a text is a date, a time of day, or a date and a time with a mark between them. -/
def isInstant (text : List Char) : Bool :=
  isTime text || isDate (text.take 10) &&
    match text.drop 10 with
    | [] => true
    | mark :: time => (mark = 'T' || mark = 't' || mark = ' ') && isZonedTime time

/-- The value of a word. -/
def value? (word : List Char) : Option Value :=
  if word = "true".toList then some (.boolean true)
  else if word = "false".toList then some (.boolean false)
  else if isInstant word then some (.instant (String.ofList word))
  else
    match float? word with
    | some x => some (.float x)
    | none => (integer? word).map .integer

/-- Characters of a word. -/
def isWordChar (c : Char) : Bool :=
  c.isAlphanum || c = '_' || c = '+' || c = '-' || c = '.' || c = ':'

end Word

namespace Quoted

/-- A tab or a space. -/
def isBlank (c : Char) : Bool :=
  c = ' ' || c = '\t'

/-- A character that may stand as it is between quotes. -/
def isPlain (c : Char) : Bool :=
  c = '\t' || (' ' ≤ c && c ≠ '\x7f')

/-- The character for a letter after a backslash. -/
def escaped? (c : Char) : Option Char :=
  if c = 'b' then some '\x08'
  else if c = 't' then some '\t'
  else if c = 'n' then some '\n'
  else if c = 'f' then some '\x0c'
  else if c = 'r' then some '\r'
  else if c = '"' then some '"'
  else if c = '\\' then some '\\'
  else none

/-- How many hexadecimal digits follow a letter after a backslash. -/
def codeLength? (c : Char) : Option Nat :=
  if c = 'u' then some 4 else if c = 'U' then some 8 else none

/-- The character with a code in hexadecimal digits. -/
def codeChar? (count : Nat) (digits : List Char) : Option Char :=
  if digits.length = count then
    (Json.Token.hexValueFrom? 0 digits).bind fun code =>
      if code.isValidChar then some (Char.ofNat code) else none
  else none

/-- A text without a line break at its start. -/
def afterLineBreak? : List Char → Option (List Char)
  | '\n' :: rest => some rest
  | '\r' :: '\n' :: rest => some rest
  | _ => none

/-- A text without the blanks and line breaks at its start. -/
def afterBlankLines : List Char → List Char
  | '\r' :: '\n' :: rest => afterBlankLines rest
  | c :: rest => if isBlank c || c = '\n' then afterBlankLines rest else c :: rest
  | [] => []

theorem length_afterBlankLines_le (text : List Char) :
    (afterBlankLines text).length ≤ text.length := by
  fun_induction afterBlankLines text <;> simp_all <;> omega

/-- How the texts between quotes are read. -/
structure Style where
  quote : Char
  /-- Whether a backslash starts an escape. -/
  escapes : Bool

/-- Reads what follows a backslash: a character, and what comes after it. -/
def escape? : List Char → Option (Char × List Char)
  | [] => none
  | c :: rest =>
    match codeLength? c with
    | some count => (codeChar? count (rest.take count)).map (·, rest.drop count)
    | none => (escaped? c).map (·, rest)

theorem length_escape?_lt {text rest : List Char} {c : Char} (h : escape? text = some (c, rest)) :
    rest.length < text.length := by
  cases text with
  | nil => simp [escape?] at h
  | cons d text =>
    simp only [escape?] at h
    split at h
    · obtain ⟨_, _, he⟩ := Option.map_eq_some_iff.1 h
      simp only [Prod.mk.injEq] at he
      rw [← he.2]
      simp only [List.length_drop, List.length_cons]
      omega
    · obtain ⟨_, _, he⟩ := Option.map_eq_some_iff.1 h
      simp only [Prod.mk.injEq] at he
      rw [← he.2]
      simp

/-- The text up to the closing quote, after the characters read so far with the latest first, and what
follows the quote. -/
def line? (style : Style) (read : List Char) (text : List Char) : Option (String × List Char) :=
  match text with
  | [] => none
  | c :: rest =>
    if c = style.quote then some (String.ofList read.reverse, rest)
    else if c = '\\' && style.escapes then
      match _h : escape? rest with
      | some (d, rest') => line? style (d :: read) rest'
      | none => none
    else if isPlain c then line? style (c :: read) rest
    else none
termination_by text.length
decreasing_by
  · have := length_escape?_lt _h
    simp only [List.length_cons]; omega
  · simp

/-- The text up to three closing quotes, of which more may stand in front, after the characters read so
far with the latest first, and what follows the quotes. -/
def block? (style : Style) (read : List Char) (text : List Char) : Option (String × List Char) :=
  match text with
  | [] => none
  | c :: rest =>
    if c = style.quote then
      let quotes := (c :: rest).takeWhile (· = style.quote)
      if 3 ≤ quotes.length then
        let inner := min (quotes.length - 3) 2
        some (String.ofList (read.reverse ++ List.replicate inner c), (c :: rest).drop (inner + 3))
      else block? style (c :: read) rest
    else if c = '\\' && style.escapes then
      match afterLineBreak? (rest.dropWhile isBlank) with
      | some _ => block? style read (afterBlankLines rest)
      | none =>
        match _h : escape? rest with
        | some (d, rest') => block? style (d :: read) rest'
        | none => none
    else if c = '\n' then block? style ('\n' :: read) rest
    else if c = '\r' then
      match rest with
      | '\n' :: rest => block? style ('\n' :: read) rest
      | _ => none
    else if isPlain c then block? style (c :: read) rest
    else none
termination_by text.length
decreasing_by
  all_goals simp only [List.length_cons]
  · omega
  · have := length_afterBlankLines_le rest
    omega
  · have := length_escape?_lt _h
    omega
  · omega
  · omega
  · omega

/-- Reads a text on one line after its opening quote. -/
def style? (c : Char) : Option Style :=
  if c = '"' then some ⟨'"', true⟩ else if c = '\'' then some ⟨'\'', false⟩ else none

/-- Reads a quoted text on one line. -/
def readLine? : List Char → Option (String × List Char)
  | [] => none
  | c :: rest => (style? c).bind fun style => line? style [] rest

/-- Reads a quoted text, on one line or between three quotes; a line break after three opening quotes
does not count. -/
def read? (text : List Char) : Option (String × List Char) :=
  match text with
  | a :: b :: c :: rest =>
    if a = b && b = c then
      (style? a).bind fun style => block? style [] ((afterLineBreak? rest).getD rest)
    else readLine? text
  | _ => readLine? text

end Quoted
end Toml
end RequestGate
