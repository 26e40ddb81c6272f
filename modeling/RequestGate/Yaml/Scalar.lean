import RequestGate.Yaml.Cursor
import RequestGate.Json.Token

/-!
# Scalars of a YAML text

The texts of plain, quoted and block scalars.  Each reader starts at the scalar's first character
and gives the text together with the cursor after it; it fails where the scalar is malformed.

Inside plain and quoted scalars lines are folded: a single line break reads as a space, and of more
than one all but the first are kept.  Block scalars keep or fold their breaks by their style, and
their header says what happens to the breaks at their end.
-/

namespace RequestGate
namespace Yaml
namespace Scalar

/-- Blanks inside a scalar that has not decided yet how they read. -/
structure Gap where
  /-- The blanks since the last character, when no line has ended. -/
  spaces : List Char := []
  /-- Whether a line has ended. -/
  broken : Bool := false
  /-- The first line break. -/
  first : List Char := []
  /-- The line breaks after the first. -/
  more : List Char := []

/-- How a gap reads between two characters. -/
def Gap.text (gap : Gap) : List Char :=
  if gap.broken then
    if gap.first = ['\n'] then (if gap.more = [] then [' '] else gap.more)
    else gap.first ++ gap.more
  else gap.spaces

/-- Reads spaces, tabs and line breaks.  A tab that stands left of `indent` after a line break is
refused. -/
def gap? (indent : Int) : Nat → Gap → Cursor → Option (Gap × Cursor)
  | 0, gap, s => some (gap, s)
  | fuel + 1, gap, s =>
    match s.at? 0 with
    | none => some (gap, s)
    | some c =>
      if Cursor.isSpace c then
        if gap.broken then
          if c = '\t' ∧ (s.column : Int) < indent then none
          else gap? indent fuel gap (s.skip 1)
        else gap? indent fuel { gap with spaces := gap.spaces ++ [c] } (s.skip 1)
      else if Cursor.isBreak c then
        let (text, s) := s.takeBreak
        if gap.broken then gap? indent fuel { gap with more := gap.more ++ text } s
        else gap? indent fuel { gap with spaces := [], broken := true, first := text } s
      else some (gap, s)

/-- A text and what follows it. -/
structure Read where
  text : String
  after : Cursor
  /-- The scalar ended at a line break. -/
  endsLine : Bool := false

/-- The characters that end a plain scalar inside brackets. -/
def isFlowIndicator (c : Char) : Bool :=
  c = ',' || c = '[' || c = ']' || c = '\x7b' || c = '\x7d'

/-- Whether a plain scalar ends here; fails on a colon before a bracket or comma inside brackets. -/
def plainEnds? (inFlow : Bool) (s : Cursor) : Option Bool :=
  match s.at? 0 with
  | none => some true
  | some c =>
    if inFlow && c = ':' && (s.at? 1).any fun d => isFlowIndicator d || d = '?' then none
    else
      some (Cursor.isSpace c || Cursor.isBreak c || (c = ':' && s.blankAt 1) ||
        (inFlow && isFlowIndicator c))

/-- Reads the part of a plain scalar up to a blank or its end. -/
def plainRun? (inFlow : Bool) : Nat → List Char → Cursor → Option (List Char × Cursor)
  | 0, read, s => some (read, s)
  | fuel + 1, read, s => do
    if ← plainEnds? inFlow s then some (read, s)
    else
      match s.at? 0 with
      | some c => plainRun? inFlow fuel (c :: read) (s.skip 1)
      | none => some (read, s)

/-- Reads a plain scalar; `read` holds its characters so far, the latest first. -/
def plainFrom? (inFlow : Bool) (indent : Int) : Nat → List Char → Gap → Cursor → Option Read
  | 0, _, _, _ => none
  | fuel + 1, read, gap, s => do
    let finish : Read := ⟨String.ofList read.reverse, s, gap.broken⟩
    if s.atDocumentMarker || s.isAt 0 '#' then some finish
    else
      let (run, after) ← plainRun? inFlow (s.rest.length + 1) [] s
      let finish : Read := ⟨String.ofList read.reverse, after, gap.broken⟩
      let (read, gap, finish) :=
        if run = [] then (read, gap, finish)
        else
          let read := run ++ gap.text.reverse ++ read
          (read, {}, ⟨String.ofList read.reverse, after, false⟩)
      if !(after.atSpace || after.atBreak) then some finish
      else
        let (gap, after) ← gap? indent (after.rest.length + 1) gap after
        if !inFlow && (after.column : Int) < indent then
          some ⟨String.ofList read.reverse, after, gap.broken⟩
        else plainFrom? inFlow indent fuel read gap after

/-- Reads a plain scalar inside a block that is indented by `indent`. -/
def plain? (inFlow : Bool) (indent : Int) (s : Cursor) : Option Read :=
  plainFrom? inFlow (indent + 1) (s.rest.length + 1) [] {} s

/-- The character of a one-letter escape in double quotes. -/
def escape? : Char → Option Char
  | '0' => some '\x00'
  | 'a' => some '\x07'
  | 'b' => some '\x08'
  | 't' => some '\t'
  | '\t' => some '\t'
  | 'n' => some '\n'
  | 'v' => some '\x0b'
  | 'f' => some '\x0c'
  | 'r' => some '\r'
  | 'e' => some '\x1b'
  | ' ' => some ' '
  | '"' => some '"'
  | '/' => some '/'
  | '\\' => some '\\'
  | 'N' => some '\u0085'
  | '_' => some '\u00a0'
  | 'L' => some '\u2028'
  | 'P' => some '\u2029'
  | _ => none

/-- How many hexadecimal digits follow the letter of a numeric escape. -/
def escapeDigits? : Char → Option Nat
  | 'x' => some 2
  | 'u' => some 4
  | 'U' => some 8
  | _ => none

/-- The character that an escape stands for and how many characters it takes after its
backslash. -/
def escaped? (s : Cursor) : Option (Char × Nat) := do
  let c ← s.at? 1
  match escapeDigits? c with
  | none => return (← escape? c, 1)
  | some count =>
    let digits := (s.rest.drop 2).take count
    if digits.length < count then none
    else
      let code ← Json.Token.hexValueFrom? 0 digits
      if code.isValidChar then some (Char.ofNat code, count + 1) else none

/-- Reads the part of a quoted scalar up to a blank or its closing quote.  The flag tells whether it
ended at an escaped line break, which joins two lines without a space. -/
def quotedRun? (quote : Char) : Nat → List Char → Cursor → Option (List Char × Bool × Cursor)
  | 0, read, s => some (read, false, s)
  | fuel + 1, read, s =>
    match s.at? 0 with
    | none => some (read, false, s)
    | some c =>
      if Cursor.isSpace c || Cursor.isBreak c then some (read, false, s)
      else if c = '\'' && quote = '\'' && s.isAt 1 '\'' then
        quotedRun? quote fuel ('\'' :: read) (s.skip 2)
      else if c = quote then some (read, false, s)
      else if c = '\\' && quote = '"' then
        if (s.at? 1).any Cursor.isBreak then some (read, true, (s.skip 1).skipBreak)
        else
          match escaped? s with
          | some (d, count) => quotedRun? quote fuel (d :: read) (s.skip (count + 1))
          | none => none
      else quotedRun? quote fuel (c :: read) (s.skip 1)

/-- Reads a quoted scalar after its opening quote. -/
def quotedFrom? (quote : Char) : Nat → List Char → Cursor → Option Read
  | 0, _, _ => none
  | fuel + 1, read, s => do
    if s.atDocumentMarker || s.atEnd then none
    else
      let (read, broken, s) ← quotedRun? quote (s.rest.length + 1) read s
      if s.isAt 0 quote then some ⟨String.ofList read.reverse, s.skip 1, false⟩
      else
        let (gap, s) ← gap? 0 (s.rest.length + 1) { broken := broken } s
        quotedFrom? quote fuel (gap.text.reverse ++ read) s

/-- Reads a quoted scalar that starts with its opening quote. -/
def quoted? (quote : Char) (s : Cursor) : Option Read :=
  quotedFrom? quote (s.rest.length + 1) [] (s.skip 1)

/-- What happens to the line breaks at the end of a block scalar. -/
inductive Chomping where
  | strip
  | clip
  | keep
  deriving DecidableEq

/-- The chomping that an indicator asks for. -/
def chomping? : Char → Option Chomping
  | '+' => some .keep
  | '-' => some .strip
  | _ => none

/-- The header of a block scalar after its indicator: chomping and indentation in either order. -/
def header? (s : Cursor) : Option (Chomping × Nat × Cursor) :=
  let digit (s : Cursor) : Option (Nat × Cursor) :=
    match s.at? 0 with
    | some c => if !c.isDigit then some (0, s) else if c = '0' then none
        else some (c.toNat - 0x30, s.skip 1)
    | none => some (0, s)
  match (s.at? 0).bind chomping? with
  | some chomping => (digit (s.skip 1)).map fun (increment, s) => (chomping, increment, s)
  | none => do
    let (increment, s) ← digit s
    match if increment = 0 then none else (s.at? 0).bind chomping? with
    | some chomping => some (chomping, increment, s.skip 1)
    | none => some (.clip, increment, s)

/-- Reads indentation and empty lines before a line of a block scalar.  An `indent` of zero is not
known yet; `widest` is the widest indentation seen. -/
def blockBreaks? (indent : Nat) :
    Nat → Nat → List Char → Cursor → Option (Nat × List Char × Cursor)
  | 0, widest, breaks, s => some (widest, breaks, s)
  | fuel + 1, widest, breaks, s =>
    let spaces := (s.rest.takeWhile (· = ' ')).length
    let s := s.skip (if indent = 0 then spaces else min spaces (indent - s.column))
    let widest := max widest s.column
    if (indent = 0 || s.column < indent) && s.isAt 0 '\t' then none
    else if !s.atBreak then some (widest, breaks, s)
    else
      let (text, s) := s.takeBreak
      blockBreaks? indent fuel widest (breaks ++ text) s

/-- The lines of a block scalar while they are being read. -/
structure Block where
  /-- The characters so far, the latest first. -/
  read : List Char
  /-- The break that ended the last line. -/
  last : List Char
  /-- The breaks of the empty lines after it. -/
  breaks : List Char
  /-- The last line started with a blank. -/
  blank : Bool

/-- How the breaks before a line read: a folded line joins its neighbour unless one of the two
starts with a blank. -/
def Block.join (literal : Bool) (block : Block) (startsBlank : Bool) : List Char :=
  if !literal && block.last = ['\n'] && !block.blank && !startsBlank then
    (if block.breaks = [] then [' '] else []) ++ block.breaks
  else block.last ++ block.breaks

/-- Reads the lines of a block scalar. -/
def blockLines? (literal : Bool) (indent : Nat) : Nat → Block → Cursor → Option (Block × Cursor)
  | 0, block, s => some (block, s)
  | fuel + 1, block, s =>
    if s.column = indent ∧ !s.atEnd then
      let startsBlank := s.atSpace
      let line := s.rest.takeWhile fun c => !Cursor.isBreak c
      let read := line.reverse ++ (block.join literal startsBlank).reverse ++ block.read
      let (last, s) := s.skipToLineEnd.takeBreak
      match blockBreaks? indent (s.rest.length + 1) 0 [] s with
      | some (_, breaks, s) => blockLines? literal indent fuel ⟨read, last, breaks, startsBlank⟩ s
      | none => none
    else some (block, s)

/-- Reads a block scalar that starts with its indicator, inside a block indented by `indent`. -/
def block? (literal : Bool) (indent : Int) (s : Cursor) : Option Read := do
  let (chomping, increment, s) ← header? (s.skip 1)
  let s ← s.skipLine?
  let given := if increment = 0 then 0 else (max indent 0).toNat + increment
  let (widest, breaks, s) ← blockBreaks? given (s.rest.length + 1) 0 [] s
  let level := if given = 0 then max (max widest (indent + 1).toNat) 1 else given
  let (block, s) ← blockLines? literal level (s.rest.length + 1) ⟨[], [], breaks, false⟩ s
  let tail := match chomping with
    | .strip => []
    | .clip => block.last
    | .keep => block.last ++ block.breaks
  return ⟨String.ofList (block.read.reverse ++ tail), s, false⟩

end Scalar
end Yaml
end RequestGate
