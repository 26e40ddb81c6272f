import RequestGate.Unicode.Property
import RequestGate.Url.Address
import RequestGate.Url.DomainTable
import RequestGate.Url.Punycode

/-!
# Domain names

Which texts are domain names.  Characters are first replaced by what they stand for, and some are
dropped; then every label is looked at on its own.  A label that starts with `xn--` is decoded, and
what it decodes to has to be outside ASCII and unchanged by the replacement.

A label holds no character that domain names refuse, starts with no mark, and has joiners only where
they join.  When some label is written from right to left, every label follows the rules of direction.
-/

namespace RequestGate
namespace Url

/-- The set that lines of a table write. -/
def tableContains (lines : List String) (c : Char) : Bool :=
  (Unicode.Ranges.ofLines lines).contains c.toNat

/-- The number that hexadecimal digits of a table denote. -/
def tableNumber (digits : List Char) : Nat :=
  (Json.Token.hexValueFrom? 0 digits).getD 0

/-- The blank-separated entries of lines, each cut at its equals sign. -/
def tableEntries (lines : List String) : List (List Char × List Char) :=
  lines.flatMap fun line => (Pieces.pieces ' ' line.toList).map fun entry =>
    let (key, value) := Pieces.cut '=' entry
    (key, value.getD [])

/-- The ASCII character that a character of a run stands for. -/
def asciiRun? (c : Char) : Option Char :=
  (tableEntries asciiRunLines).findSome? fun (key, value) =>
    let (first, last) := Pieces.cut '-' key
    let first := tableNumber first
    let last := (last.map tableNumber).getD first
    if first ≤ c.toNat && c.toNat ≤ last then
      some (Char.ofNat (tableNumber value + (c.toNat - first)))
    else none

/-- The characters, some of them ASCII, that a character stands for. -/
def asciiText? (c : Char) : Option (List Char) :=
  (tableEntries asciiTextLines).findSome? fun (key, value) =>
    if tableNumber key = c.toNat then
      some ((Pieces.pieces '+' value).map fun code => Char.ofNat (tableNumber code))
    else none

/-- What a character of a domain name is replaced by. -/
def replaced (c : Char) : List Char :=
  if c.toNat < 0x80 then [c.toLower]
  else if tableContains ignoredLines c then []
  else match asciiText? c with
    | some text => text
    | none => [(asciiRun? c).getD c]

/-- ASCII characters that a host may not hold. -/
def isForbidden (c : Char) : Bool :=
  c ≤ ' ' || c = '\x7f' || "#/:<>?@[\\]^|%".toList.contains c

/-- Whether a character may stand in a label. -/
def isAllowed (c : Char) : Bool :=
  if c.toNat < 0x80 then !isForbidden c else !tableContains disallowedLines c

/-- Whether a character is a mark. -/
def isMark (c : Char) : Bool :=
  0x80 ≤ c.toNat && (Unicode.category? "m").any fun set => set.contains c.toNat

/-! ## Joiners -/

/-- Whether a character joins to the one before it. -/
def joinsBefore (c : Char) : Bool :=
  tableContains dualJoiningLines c || tableContains rightJoiningLines c

/-- Whether a character joins to the one after it. -/
def joinsAfter (c : Char) : Bool :=
  tableContains dualJoiningLines c || tableContains leftJoiningLines c

/-- Whether every joiner stands after a sign that drops a vowel or, when it parts letters, between
two that would join.  The characters before are given, the nearest first. -/
def joinersFit (before : List Char) : List Char → Bool
  | [] => true
  | c :: rest =>
    let fits :=
      if c = '\u200c' then
        before.head?.any (tableContains viramaLines) ||
          ((before.dropWhile isMark).head?.any joinsAfter &&
            (rest.dropWhile isMark).head?.any joinsBefore)
      else if c = '\u200d' then before.head?.any (tableContains viramaLines)
      else true
    fits && joinersFit (c :: before) rest

/-! ## Direction -/

/-- How a character behaves in a line that mixes directions. -/
inductive Direction where
  | leftToRight
  | rightToLeft
  | arabicNumber
  | europeanNumber
  | neutral
  | nonspacing
  deriving DecidableEq

/-- The direction of a character. -/
def direction (c : Char) : Direction :=
  if c.toNat < 0x80 then
    if c.isDigit then .europeanNumber else if c.isAlpha then .leftToRight else .neutral
  else if tableContains rightToLeftLines c then .rightToLeft
  else if tableContains arabicNumberLines c then .arabicNumber
  else if tableContains europeanNumberLines c then .europeanNumber
  else if tableContains neutralLines c then .neutral
  else if tableContains nonspacingLines c then .nonspacing
  else .leftToRight

/-- Whether the directions of a label fit together. -/
def directionsFit (directions : List Direction) : Bool :=
  let last := (directions.reverse.dropWhile (· = .nonspacing)).head?
  match directions with
  | .rightToLeft :: _ =>
    !directions.contains .leftToRight &&
      last.any (fun d => d ≠ .neutral && d ≠ .leftToRight) &&
      !(directions.contains .arabicNumber && directions.contains .europeanNumber)
  | .leftToRight :: _ =>
    !directions.contains .rightToLeft && !directions.contains .arabicNumber &&
      last.any fun d => d = .leftToRight || d = .europeanNumber
  | [] => true
  | _ => false

/-- Whether a label is written from right to left in part. -/
def hasRightToLeft (directions : List Direction) : Bool :=
  directions.contains .rightToLeft || directions.contains .arabicNumber

/-! ## Labels -/

/-- Whether the characters of a label are in place. -/
def isLabel (label : List Char) : Bool :=
  label.all isAllowed && !label.head?.any isMark && joinersFit [] label

/-- The characters of a label, decoded when it says that it is encoded. -/
def decodedLabel? (label : List Char) : Option (List Char) :=
  match label with
  | 'x' :: 'n' :: '-' :: '-' :: rest =>
    if !rest.all (fun c => c.toNat < 0x80) then none
    else
      match Punycode.decode? rest with
      | some decoded =>
        if decoded.all (fun c => c.toNat < 0x80) || decoded.any (tableContains mappedLines) ||
            decoded.any (tableContains ignoredLines) || decoded.any Char.isUpper then none
        else some decoded
      | none => none
  | label => some label

/-- A domain name after replacement, when it is one. -/
def domain? (text : List Char) : Option (List Char) :=
  let replacement := text.flatMap replaced
  if replacement.all fun c => c.toNat < 0x80 && !isForbidden c then
    let labels := Pieces.pieces '.' replacement
    if labels.all fun label => (decodedLabel? label).any isLabel then some replacement else none
  else
    let labels := Pieces.pieces '.' replacement
    match labels.mapM decodedLabel? with
    | none => none
    | some labels =>
      let directions := labels.map fun label => label.map direction
      if labels.all isLabel && (!directions.any hasRightToLeft || directions.all directionsFit) then
        some replacement
      else none

end Url
end RequestGate
