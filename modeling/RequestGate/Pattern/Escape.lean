import RequestGate.Json.Token
import RequestGate.Pattern.Basic
import RequestGate.Text.Blank
import RequestGate.Text.Pieces

/-!
# Escapes of pattern text

What follows a backslash in a pattern: a character, a set of characters or a condition on the
position.  A pattern in verbose mode may have blanks and comments between its parts, also inside an
escape.
-/

namespace RequestGate
namespace Pattern

/-- The modes in which a part of a pattern is read. -/
structure Mode where
  /-- Letters match in either case. -/
  caseless : Bool := false
  /-- Line conditions hold at every line. -/
  multiLine : Bool := false
  /-- The dot takes line ends as well. -/
  dotAll : Bool := false
  /-- Sets hold characters of all scripts. -/
  unicode : Bool := true
  /-- Carriage returns end lines. -/
  returns : Bool := false
  /-- Blanks and comments between parts are skipped. -/
  verbose : Bool := false

namespace Read

/-- The text after blanks and comments. -/
def skipBlanks (inComment : Bool) : List Char → List Char
  | [] => []
  | c :: rest =>
    if inComment then skipBlanks (c ≠ '\n') rest
    else if Blank.isBlank c then skipBlanks false rest
    else if c = '#' then skipBlanks true rest
    else c :: rest

/-- The text after what the mode skips. -/
def skip (mode : Mode) (text : List Char) : List Char :=
  if mode.verbose then skipBlanks false text else text

/-- The text after its first character and what the mode skips. -/
def advance (mode : Mode) (text : List Char) : List Char :=
  skip mode (text.drop 1)

/-- What an escape stands for. -/
inductive Escape where
  /-- A character; the flag marks one written as a byte. -/
  | literal (c : Char) (byte : Bool)
  | set (set : CharSet)
  | condition (condition : Condition)

/-- Characters with a meaning in patterns. -/
def isMeta (c : Char) : Bool :=
  "\\.+*?()|[]\x7b\x7d^$#&-~".toList.contains c

/-- Characters that stand for themselves after a backslash: all of ASCII but letters, digits and
angle brackets. -/
def isPlainEscape (c : Char) : Bool :=
  isMeta c || (c.toNat < 0x80 && !c.isAlphanum && c ≠ '<' && c ≠ '>')

/-- The control characters with a letter of their own. -/
def controlEscape? : Char → Option Char
  | 'a' => some '\x07'
  | 'f' => some '\x0c'
  | 't' => some '\t'
  | 'n' => some '\n'
  | 'r' => some '\r'
  | 'v' => some '\x0b'
  | _ => none

/-- The character with a code written in hexadecimal. -/
def codeChar? (digits : List Char) : Option Char := do
  let code ← Json.Token.hexValueFrom? 0 digits
  if digits ≠ [] ∧ code.isValidChar then some (Char.ofNat code) else none

/-- Reads a number of hexadecimal digits; `read` holds the digits so far, the latest first. -/
def fixedDigits? (mode : Mode) : Nat → List Char → List Char → Option (List Char × List Char)
  | 0, read, text => some (read.reverse, text)
  | n + 1, read, c :: rest =>
    if (Json.Token.hexValue? c).isSome then fixedDigits? mode n (c :: read) (skip mode rest)
    else none
  | _ + 1, _, [] => none

/-- Reads up to a closing brace; the fuel is the length of the text. -/
def braced? (mode : Mode) : Nat → List Char → List Char → Option (List Char × List Char)
  | 0, _, _ => none
  | fuel + 1, read, text =>
    match text with
    | [] => none
    | '\x7d' :: rest => some (read.reverse, rest)
    | c :: rest => braced? mode fuel (c :: read) (skip mode rest)

/-- Reads a character written by its code, after the letter that starts the escape. -/
def hexEscape? (mode : Mode) (digits : Nat) (text : List Char) : Option (Escape × List Char) :=
  match text with
  | '\x7b' :: rest => do
    let (code, rest) ← braced? mode (rest.length + 1) [] (skip mode rest)
    return (.literal (← codeChar? code) false, skip mode rest)
  | text => do
    let (code, rest) ← fixedDigits? mode digits [] text
    return (.literal (← codeChar? code) (digits = 2), rest)

/-- A set in the case mode; a set written without Unicode has to be ASCII. -/
def modeSet? (mode : Mode) (negated : Bool) (set : CharSet) : Option CharSet :=
  if mode.unicode then
    some (CharSet.complementIf negated (if mode.caseless then .caseless set else set))
  else
    let set := CharSet.complementIf negated (if mode.caseless then .caselessAscii set else set)
    if set.isAscii then some set else none

/-- Where a text has the first occurrence of two characters. -/
def splitAtPair (a b : Char) : List Char → Option (List Char × List Char)
  | [] => none
  | [_] => none
  | c :: d :: rest =>
    if c = a ∧ d = b then some ([], rest)
    else (splitAtPair a b (d :: rest)).map fun (before, after) => (c :: before, after)

/-- The set of a property query, and whether it is negated. -/
def query? (text : List Char) : Option (Unicode.NamedSet × Bool) :=
  let valued (parts : List Char × List Char) (negated : Bool) :=
    (Unicode.valued? (String.ofList parts.1) (String.ofList parts.2)).map (·, negated)
  match splitAtPair '!' '=' text with
  | some parts => valued parts true
  | none =>
    match Pieces.cut ':' text with
    | (name, some value) => valued (name, value) false
    | _ =>
      match Pieces.cut '=' text with
      | (name, some value) => valued (name, value) false
      | _ => (Unicode.named? (String.ofList text)).map (·, false)

/-- Reads a property set, after the letter that starts the escape. -/
def propertyEscape? (mode : Mode) (negated : Bool) (text : List Char) :
    Option (Escape × List Char) := do
  let (name, rest) ← match text with
    | [] => none
    | '\x7b' :: rest => do
      let (name, rest) ← braced? mode (rest.length + 1) [] (skip mode rest)
      some (name, rest)
    | '\\' :: _ => none
    | c :: rest => some ([c], skip mode rest)
  if !mode.unicode then none
  else
    let (set, unequal) ← query? name
    return (.set (← modeSet? mode (negated != unequal) (.ofNamed set)), rest)

/-- A class with a letter of its own: digits, blanks and word characters. -/
def letterClass? (mode : Mode) (letter : Char) : Option CharSet :=
  let set := match letter.toLower with
    | 'd' => if mode.unicode then CharSet.digits else .asciiDigits
    | 's' => if mode.unicode then CharSet.blanks else .asciiBlanks
    | _ => if mode.unicode then CharSet.words else .asciiWords
  modeSet? { mode with caseless := false } letter.isUpper set

/-- The word characters of a mode. -/
def modeWords (mode : Mode) : CharSet :=
  if mode.unicode then .words else .asciiWords

/-- The kinds of word edges that are written in braces. -/
def namedEdge? (name : String) : Option WordEdge :=
  if name = "start" then some .start
  else if name = "end" then some .finish
  else if name = "start-half" then some .startHalf
  else if name = "end-half" then some .finishHalf
  else none

/-- Characters of the names of word edges. -/
def isEdgeChar (c : Char) : Bool :=
  c.isAlpha || c = '-'

/-- Reads characters of an edge name; the fuel is the length of the text. -/
def edgeName (mode : Mode) : Nat → List Char → List Char → List Char × List Char
  | 0, read, text => (read.reverse, text)
  | fuel + 1, read, text =>
    match text with
    | c :: rest => if isEdgeChar c then edgeName mode fuel (c :: read) (skip mode rest)
        else (read.reverse, text)
    | [] => (read.reverse, [])

/-- Reads what follows `\b`: the name of an edge in braces, unless the brace starts a repetition. -/
def wordEdge? (mode : Mode) (text : List Char) : Option (WordEdge × List Char) :=
  match text with
  | '\x7b' :: rest =>
    match skip mode rest with
    | [] => none
    | c :: more =>
      if isEdgeChar c then
        match edgeName mode (rest.length + 1) [] (c :: more) with
        | (name, '\x7d' :: after) => (namedEdge? (String.ofList name)).map (·, after)
        | _ => none
      else some (.boundary, text)
  | text => some (.boundary, text)

/-- Reads an escape after its backslash. -/
def escape? (mode : Mode) : List Char → Option (Escape × List Char)
  | [] => none
  | c :: rest =>
    match c with
    | 'x' => hexEscape? mode 2 (skip mode rest)
    | 'u' => hexEscape? mode 4 (skip mode rest)
    | 'U' => hexEscape? mode 8 (skip mode rest)
    | 'p' => propertyEscape? mode false (skip mode rest)
    | 'P' => propertyEscape? mode true (skip mode rest)
    | 'A' => some (.condition .textStart, rest)
    | 'z' => some (.condition .textEnd, rest)
    | 'b' => do
      let (edge, rest) ← wordEdge? mode rest
      return (.condition (.word edge (modeWords mode)), rest)
    | 'B' => some (.condition (.word .noBoundary (modeWords mode)), rest)
    | '<' => some (.condition (.word .start (modeWords mode)), rest)
    | '>' => some (.condition (.word .finish (modeWords mode)), rest)
    | c =>
      if "dswDSW".toList.contains c then (letterClass? mode c).map fun set => (.set set, rest)
      else if isPlainEscape c then some (.literal c false, rest)
      else (controlEscape? c).map fun d => (.literal d false, rest)

end Read
end Pattern
end RequestGate
