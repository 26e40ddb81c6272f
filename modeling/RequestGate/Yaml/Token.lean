import RequestGate.Text.Percent
import RequestGate.Yaml.Scalar

/-!
# Tokens of a YAML text

The indicators, directives, properties and scalars of a YAML text, in order, with the starts and ends
of blocks that its indentation implies.

A mapping key without an indicator shows only by the colon after it.  Wherever such a key may start
the scanner notes the number of the next token, and at the colon it inserts the key's token there.
A key has to be followed by its colon on the same line and within 1024 characters; where the
indentation demands a key and no colon comes, the text is refused.
-/

namespace RequestGate
namespace Yaml

/-- The parts of a YAML text. -/
inductive Token where
  | streamEnd
  | version (major minor : Nat)
  | tagDirective (handle leading : String)
  | documentStart
  | documentEnd
  | blockSequenceStart
  | blockMappingStart
  | blockEnd
  | flowSequenceStart
  | flowSequenceEnd
  | flowMappingStart
  | flowMappingEnd
  | blockEntry
  | flowEntry
  | key
  | value
  | alias (name : String)
  | anchor (name : String)
  | tag (handle suffix : String)
  | scalar (text : String) (plain : Bool)

namespace Token

/-- A place where a key without an indicator may have started. -/
structure KeyPlace where
  /-- The number of the key's first token. -/
  number : Nat
  /-- The indentation demands a key here. -/
  required : Bool
  index : Nat
  line : Nat
  column : Nat

/-- The scanner between two tokens. -/
structure Scanner where
  cursor : Cursor
  /-- How many brackets are open. -/
  flowLevel : Nat
  indent : Int
  /-- The indentations of the blocks around, the innermost first. -/
  outerIndents : List Int
  /-- A key without an indicator may start here. -/
  keyAllowed : Bool
  /-- The place of a key since the innermost bracket was opened. -/
  keyPlace : Option KeyPlace
  /-- The places of keys outside the innermost bracket, the nearest first. -/
  outerPlaces : List (Option KeyPlace)
  /-- The tokens so far, the latest first. -/
  tokens : List Token
  count : Nat

namespace Scanner

/-- The scanner at the start of a text. -/
def start (text : List Char) : Scanner :=
  ⟨⟨text, 0, 0, 0⟩, 0, -1, [], true, none, [], [], 0⟩

/-- The scanner with one more token. -/
def push (s : Scanner) (token : Token) : Scanner :=
  { s with tokens := token :: s.tokens, count := s.count + 1 }

/-- The scanner with a token inserted before the one with a number. -/
def insertAt (s : Scanner) (number : Nat) (token : Token) : Scanner :=
  let later := s.count - number
  { s with tokens := s.tokens.take later ++ token :: s.tokens.drop later, count := s.count + 1 }

/-- The scanner past characters of the line. -/
def skip (s : Scanner) (count : Nat) : Scanner :=
  { s with cursor := s.cursor.skip count }

/-- Opens a block at a column that is further in; `number` is where its token goes. -/
def openBlock (s : Scanner) (column : Nat) (number : Nat) (token : Token) : Scanner :=
  if s.flowLevel = 0 ∧ s.indent < column then
    { s.insertAt number token with indent := column, outerIndents := s.indent :: s.outerIndents }
  else s

/-- Closes the blocks that are further in than a column, the innermost first. -/
def closeBlocks (column : Int) : List Int → Scanner → Scanner
  | [], s => s
  | outer :: rest, s =>
    if column < s.indent then
      closeBlocks column rest { s.push .blockEnd with indent := outer, outerIndents := rest }
    else s

/-- Closes the blocks that are further in than a column, outside brackets. -/
def unwind (s : Scanner) (column : Int) : Scanner :=
  if s.flowLevel = 0 then closeBlocks column s.outerIndents s else s

/-- Forgets the place of a key, unless a key is demanded there. -/
def forgetKey? (s : Scanner) : Option Scanner :=
  if s.keyPlace.any KeyPlace.required then none else some { s with keyPlace := none }

/-- Notes that a key may start here. -/
def noteKey? (s : Scanner) : Option Scanner :=
  if s.keyAllowed then do
    let required := s.flowLevel = 0 ∧ s.indent = s.cursor.column
    let s ← s.forgetKey?
    let place : KeyPlace := ⟨s.count, required, s.cursor.index, s.cursor.line, s.cursor.column⟩
    return { s with keyPlace := some place }
  else some s

/-- The place of a key that the colon here may belong to; fails when a key was demanded too far
away. -/
def currentKey? (s : Scanner) : Option (Option KeyPlace) :=
  match s.keyPlace with
  | none => some none
  | some place =>
    if place.line < s.cursor.line ∨ place.index + 1024 < s.cursor.index then
      if place.required then none else some none
    else some (some place)

/-- The scanner past blanks, comments and line ends.  The fuel is the length of the text. -/
def skipToToken : Nat → Scanner → Scanner
  | 0, s => s
  | fuel + 1, s =>
    let cursor := if s.cursor.column = 0 ∧ s.cursor.isAt 0 '\ufeff' then s.cursor.skip 1 else s.cursor
    let tabs := 0 < s.flowLevel || !s.keyAllowed
    let cursor := cursor.skip (cursor.rest.takeWhile fun c => c = ' ' || (tabs && c = '\t')).length
    let cursor := if cursor.isAt 0 '#' then cursor.skipToLineEnd else cursor
    if cursor.atBreak then
      skipToToken fuel { s with
        cursor := cursor.skipBreak, keyAllowed := s.keyAllowed || s.flowLevel = 0 }
    else { s with cursor := cursor }

end Scanner

/-! ## Directives, anchors and tags -/

/-- The word characters at a cursor, and the cursor after them. -/
def word (s : Cursor) : List Char × Cursor :=
  let text := s.rest.takeWhile Cursor.isWord
  (text, s.skip text.length)

/-- Reads a number of a version: at most nine digits. -/
def versionNumber? (s : Cursor) : Option (Nat × Cursor) :=
  let digits := s.rest.takeWhile Char.isDigit
  if digits = [] ∨ 9 < digits.length then none
  else some (Numeral.value digits, s.skip digits.length)

/-- Reads the handle of a tag: an exclamation mark, word characters and another one. In a directive the
second mark may be missing only when nothing stands between. -/
def handle? (inDirective : Bool) (s : Cursor) : Option (List Char × Cursor) :=
  if !s.isAt 0 '!' then none
  else
    let (name, after) := word (s.skip 1)
    if after.isAt 0 '!' then some ('!' :: name ++ ['!'], after.skip 1)
    else if inDirective && name ≠ [] then none
    else some ('!' :: name, after)

/-- Characters of a tag; those of lists only where `full` says so. -/
def isTagChar (full : Bool) (c : Char) : Bool :=
  Cursor.isWord c || ";/?:@&=+$.!~*'()%".toList.contains c || (full && (c = ',' || c = '[' || c = ']'))

/-- How many bytes a character has that starts with a byte. -/
def byteCount? (b : UInt8) : Option Nat :=
  if b < 0x80 then some 1
  else if b &&& 0xE0 = 0xC0 then some 2
  else if b &&& 0xF0 = 0xE0 then some 3
  else if b &&& 0xF8 = 0xF0 then some 4
  else none

/-- Reads an escaped byte. -/
def escapedByte? : List Char → Option (UInt8 × List Char)
  | '%' :: a :: b :: rest =>
    (Json.Token.hexValueFrom? 0 [a, b]).map fun n => (UInt8.ofNat n, rest)
  | _ => none

/-- Reads escaped bytes that continue a character. -/
def moreBytes? : Nat → List Char → Option (List UInt8 × List Char)
  | 0, text => some ([], text)
  | n + 1, text => do
    let (b, rest) ← escapedByte? text
    if b &&& 0xC0 ≠ 0x80 then none
    else
      let (bytes, rest) ← moreBytes? n rest
      return (b :: bytes, rest)

/-- Reads a character written as escaped bytes. -/
def escapedChar? (text : List Char) : Option (List Char × List Char) := do
  let (b, rest) ← escapedByte? text
  let count ← byteCount? b
  let (bytes, rest) ← moreBytes? (count - 1) rest
  return ((Utf8.decodeLossy (b :: bytes)).toList, rest)

/-- Reads the characters of a tag; the fuel is the length of the text. -/
def tagText? (full : Bool) : Nat → List Char → List Char → Option (List Char × List Char)
  | 0, read, text => some (read, text)
  | fuel + 1, read, text =>
    match text with
    | [] => some (read, [])
    | c :: rest =>
      if !isTagChar full c then some (read, text)
      else if c = '%' then
        match escapedChar? text with
        | some (chars, rest) => tagText? full fuel (read ++ chars) rest
        | none => none
      else tagText? full fuel (read ++ [c]) rest

/-- Reads the characters of a tag after those already read, and the cursor after them. -/
def tagRest? (full : Bool) (read : List Char) (s : Cursor) : Option (List Char × Cursor) := do
  let (text, rest) ← tagText? full (s.rest.length + 1) read s.rest
  return (text, s.skip (s.rest.length - rest.length))

/-- Reads a nonempty text of a tag. -/
def tagUri? (full : Bool) (s : Cursor) : Option (String × Cursor) := do
  let (text, after) ← tagRest? full [] s
  if after.index = s.index then none else return (String.ofList text, after)

/-- Reads a tag. -/
def tag? (inFlow : Bool) (s : Cursor) : Option (Token × Cursor) := do
  let (token, after) ←
    if s.isAt 1 '<' then do
      let (suffix, after) ← tagUri? true (s.skip 2)
      if after.isAt 0 '>' then some (Token.tag "" suffix, after.skip 1) else none
    else do
      let (handle, after) ← handle? false s
      if 1 < handle.length ∧ handle.getLast? = some '!' then do
        let (suffix, after) ← tagUri? false after
        some (Token.tag (String.ofList handle) suffix, after)
      else do
        let (suffix, after) ← tagRest? false (handle.drop 1) after
        some (if suffix = [] then Token.tag "" "!" else Token.tag "!" (String.ofList suffix), after)
  if after.blankAt 0 ∨ (inFlow ∧ after.isAt 0 ',') then some (token, after) else none

/-- Reads the name of an anchor or alias after its indicator. -/
def anchorName? (s : Cursor) : Option (String × Cursor) :=
  let (name, after) := word s
  let ends := after.blankAt 0 || (after.at? 0).any fun c => "?:,]\x7d%@\x60".toList.contains c
  if name ≠ [] && ends then some (String.ofList name, after) else none

/-- Reads a directive. -/
def directive? (s : Cursor) : Option (Token × Cursor) := do
  let (name, after) := word (s.skip 1)
  if name = [] ∨ !after.blankAt 0 then none
  else
    let value := after.skipSpaces
    let (token, after) ←
      if name = "YAML".toList then do
        let (major, after) ← versionNumber? value
        if !after.isAt 0 '.' then none
        else
          let (minor, after) ← versionNumber? (after.skip 1)
          some (Token.version major minor, after)
      else if name = "TAG".toList then do
        let (handle, after) ← handle? true value
        if !after.atSpace then none
        else
          let (leading, after) ← tagUri? true after.skipSpaces
          if after.blankAt 0 then some (Token.tagDirective (String.ofList handle) leading, after)
          else none
      else none
    return (token, ← after.skipLine?)

/-! ## The next token -/

namespace Scanner

/-- The scanner after a token that ends at a cursor. -/
def pushAt (s : Scanner) (read : Token × Cursor) : Scanner :=
  { s.push read.1 with cursor := read.2 }

/-- Ends the text. -/
def finish? (s : Scanner) : Option Scanner := do
  let s ← (s.unwind (-1)).forgetKey?
  return s.push .streamEnd

/-- Reads a directive line. -/
def directive? (s : Scanner) : Option Scanner := do
  let s ← (s.unwind (-1)).forgetKey?
  return { s.pushAt (← Token.directive? s.cursor) with keyAllowed := false }

/-- Reads a document marker. -/
def marker? (s : Scanner) (token : Token) : Option Scanner := do
  let s ← (s.unwind (-1)).forgetKey?
  return { (s.push token).skip 3 with keyAllowed := false }

/-- Reads an opening bracket. -/
def openBracket? (s : Scanner) (token : Token) : Option Scanner := do
  let s ← s.noteKey?
  return { (s.push token).skip 1 with
    flowLevel := s.flowLevel + 1, keyAllowed := true,
    keyPlace := none, outerPlaces := s.keyPlace :: s.outerPlaces }

/-- Reads a closing bracket. -/
def closeBracket? (s : Scanner) (token : Token) : Option Scanner := do
  let s ← s.forgetKey?
  let s := { (s.push token).skip 1 with flowLevel := s.flowLevel - 1, keyAllowed := false }
  match s.outerPlaces with
  | place :: rest => return { s with keyPlace := place, outerPlaces := rest }
  | [] => return s

/-- Reads a comma between items in brackets. -/
def comma? (s : Scanner) : Option Scanner := do
  let s ← s.forgetKey?
  return { (s.push .flowEntry).skip 1 with keyAllowed := true }

/-- Reads the hyphen of a sequence entry. -/
def item? (s : Scanner) : Option Scanner := do
  if s.flowLevel = 0 ∧ !s.keyAllowed then none
  else
    let s ← (s.openBlock s.cursor.column s.count .blockSequenceStart).forgetKey?
    return { (s.push .blockEntry).skip 1 with keyAllowed := true }

/-- Reads the question mark of a key. -/
def key? (s : Scanner) : Option Scanner := do
  if s.flowLevel = 0 ∧ !s.keyAllowed then none
  else
    let s ← (s.openBlock s.cursor.column s.count .blockMappingStart).forgetKey?
    return { (s.push .key).skip 1 with keyAllowed := s.flowLevel = 0 }

/-- Reads the colon of a value. -/
def value? (s : Scanner) : Option Scanner := do
  match ← s.currentKey? with
  | some place =>
    let s := (s.insertAt place.number .key).openBlock place.column place.number .blockMappingStart
    return { (s.push .value).skip 1 with keyPlace := none, keyAllowed := false }
  | none =>
    if s.flowLevel = 0 ∧ !s.keyAllowed then none
    else
      let s := s.openBlock s.cursor.column s.count .blockMappingStart
      return { (s.push .value).skip 1 with keyPlace := none, keyAllowed := s.flowLevel = 0 }

/-- Reads an anchor or an alias. -/
def anchor? (s : Scanner) (token : String → Token) : Option Scanner := do
  let s ← s.noteKey?
  let (name, after) ← anchorName? (s.cursor.skip 1)
  return { s.pushAt (token name, after) with keyAllowed := false }

/-- Reads a tag. -/
def tag? (s : Scanner) : Option Scanner := do
  let s ← s.noteKey?
  return { s.pushAt (← Token.tag? (0 < s.flowLevel) s.cursor) with keyAllowed := false }

/-- Reads a block scalar. -/
def block? (s : Scanner) (literal : Bool) : Option Scanner := do
  let s ← s.forgetKey?
  let read ← Scalar.block? literal s.indent s.cursor
  return { s.pushAt (.scalar read.text false, read.after) with keyAllowed := true }

/-- Reads a quoted scalar. -/
def quoted? (s : Scanner) (quote : Char) : Option Scanner := do
  let s ← s.noteKey?
  let read ← Scalar.quoted? quote s.cursor
  return { s.pushAt (.scalar read.text false, read.after) with keyAllowed := false }

/-- Reads a plain scalar. -/
def plain? (s : Scanner) : Option Scanner := do
  let s ← s.noteKey?
  let read ← Scalar.plain? (0 < s.flowLevel) s.indent s.cursor
  return { s.pushAt (.scalar read.text true, read.after) with keyAllowed := read.endsLine }

/-- Characters that start no plain scalar. -/
def isIndicator (c : Char) : Bool :=
  "-?:,[]\x7b\x7d#&*!|>'\"%@\x60".toList.contains c

/-- Reads the next token, which starts with a character. -/
def fetch? (s : Scanner) (c : Char) : Option Scanner :=
  let inFlow := 0 < s.flowLevel
  let blankNext := s.cursor.blankAt 1
  if s.cursor.column = 0 ∧ c = '%' then s.directive?
  else if s.cursor.atTriple '-' then s.marker? .documentStart
  else if s.cursor.atTriple '.' then s.marker? .documentEnd
  else if c = '[' then s.openBracket? .flowSequenceStart
  else if c = '\x7b' then s.openBracket? .flowMappingStart
  else if c = ']' then s.closeBracket? .flowSequenceEnd
  else if c = '\x7d' then s.closeBracket? .flowMappingEnd
  else if c = ',' then s.comma?
  else if c = '-' ∧ blankNext then s.item?
  else if c = '?' ∧ (inFlow ∨ blankNext) then s.key?
  else if c = ':' ∧ (inFlow ∨ blankNext) then s.value?
  else if c = '*' then s.anchor? .alias
  else if c = '&' then s.anchor? .anchor
  else if c = '!' then s.tag?
  else if c = '|' ∧ !inFlow then s.block? true
  else if c = '>' ∧ !inFlow then s.block? false
  else if c = '\x27' ∨ c = '"' then s.quoted? c
  else if !(Cursor.isSpace c || isIndicator c) || c = '-' || ((c = '?' || c = ':') && !inFlow) then
    s.plain?
  else none

/-- Reads all tokens; the fuel is the length of the text. -/
def run? : Nat → Scanner → Option Scanner
  | 0, _ => none
  | fuel + 1, s =>
    let s := skipToToken (s.cursor.rest.length + 1) s
    let s := s.unwind s.cursor.column
    match s.cursor.at? 0 with
    | none => s.finish?
    | some c =>
      match s.fetch? c with
      | some s => run? fuel s
      | none => none

end Scanner

/-- The text without a byte order mark at its start. -/
def withoutMark : List Char → List Char
  | '\ufeff' :: rest => rest
  | text => text

/-- The tokens of a text. -/
def tokens? (text : String) : Option (List Token) :=
  let chars := withoutMark text.toList
  if chars.all Cursor.isAllowed then
    (Scanner.run? (chars.length + 1) (.start chars)).map fun s => s.tokens.reverse
  else none

end Token
end Yaml
end RequestGate
