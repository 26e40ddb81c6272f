import RequestGate.Pattern.Basic

/-!
# Fixed text formats

The patterns of mail addresses, dates, dates with a time, and identifiers.  Digits of dates and
identifiers are decimal digits of any script.
-/

namespace RequestGate
namespace Format

open Pattern

/-- A decimal digit. -/
def digit : Pattern :=
  .one .digits

/-- A number of decimal digits. -/
def digits (count : Nat) : Pattern :=
  exactly count digit

/-- One of a few characters. -/
def oneOf (chars : String) : Pattern :=
  .one (chars.toList.foldr (fun c set => .union (.single c) set) .empty)

/-- The ASCII letters and digits. -/
def alphanumeric : CharSet :=
  .ranges [(0x30, 0x39), (0x41, 0x5A), (0x61, 0x7A)]

/-- A character of the part of a mail address before the `@`. -/
def localChar : Pattern :=
  .one (".!#$%&'*+/=?^_`\x7b|\x7d~-".toList.foldr (fun c set => .union (.single c) set) alphanumeric)

/-- A label of a mail domain: at most 63 letters, digits and hyphens, with no hyphen at its ends. -/
def label : Pattern :=
  .sequence (.one alphanumeric)
    (optional (.sequence (.repeated 0 (some 61) (.one (.union alphanumeric (.single '-'))))
      (.one alphanumeric)))

/-- A mail address: characters, an `@` and at least two labels with points between them. -/
def email : Pattern :=
  whole (sequenceAll [oneOrMore localChar, char '@', label, oneOrMore (.sequence (char '.') label)])

/-- A year, a month and a day. -/
def calendarDay : Pattern :=
  sequenceAll [digits 4, char '-', digits 2, char '-', digits 2]

/-- A date. -/
def date : Pattern :=
  whole calendarDay

/-- An hour, a minute and a second, possibly with a fraction. -/
def clockTime : Pattern :=
  sequenceAll [digits 2, char ':', digits 2, char ':', digits 2,
    optional (.sequence (char '.') (oneOrMore digit))]

/-- A time zone: the letter of universal time, or a difference to it. -/
def zone : Pattern :=
  .choice (oneOf "Zz") (sequenceAll [oneOf "+-", digits 2, optional (char ':'), digits 2])

/-- A date with a time and possibly a zone. -/
def dateTime : Pattern :=
  whole (sequenceAll [calendarDay, oneOf "Tt ", clockTime, optional zone])

/-- An identifier: digits. -/
def id : Pattern :=
  whole (oneOrMore digit)

end Format
end RequestGate
