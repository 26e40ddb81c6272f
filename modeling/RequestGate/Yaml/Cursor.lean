/-!
# Positions in a YAML text

A cursor is the text that is still to be read together with the place where it starts.  Lines end at
a carriage return, a line feed, both together, a next line, a line separator or a paragraph
separator; the first four read as a line feed inside scalars, the separators as themselves.
-/

namespace RequestGate
namespace Yaml

/-- The rest of a text and where it starts. -/
structure Cursor where
  rest : List Char
  index : Nat
  line : Nat
  column : Nat

namespace Cursor

/-- Characters that may stand in a YAML text. -/
def isAllowed (c : Char) : Bool :=
  let n := c.toNat
  n == 0x09 || n == 0x0A || n == 0x0D || (0x20 ≤ n && n ≤ 0x7E) || n == 0x85 ||
    (0xA0 ≤ n && n ≤ 0xFFFD) || 0x10000 ≤ n

/-- Spaces and tabs. -/
def isSpace (c : Char) : Bool :=
  c = ' ' || c = '\t'

/-- Characters that end a line. -/
def isBreak (c : Char) : Bool :=
  c = '\r' || c = '\n' || c = '\u0085' || c = '\u2028' || c = '\u2029'

/-- Letters, digits, the underscore and the hyphen. -/
def isWord (c : Char) : Bool :=
  c.isAlphanum || c = '_' || c = '-'

/-- The character at an offset. -/
def at? (s : Cursor) (offset : Nat) : Option Char :=
  s.rest[offset]?

/-- Whether the character at an offset is the given one. -/
def isAt (s : Cursor) (offset : Nat) (c : Char) : Bool :=
  s.at? offset == some c

/-- Whether the text is at its end. -/
def atEnd (s : Cursor) : Bool :=
  s.rest.isEmpty

/-- Whether a space or tab comes next. -/
def atSpace (s : Cursor) : Bool :=
  (s.at? 0).any isSpace

/-- Whether a line break comes next. -/
def atBreak (s : Cursor) : Bool :=
  (s.at? 0).any isBreak

/-- Whether a space, a tab, a line break or the end of the text is at an offset. -/
def blankAt (s : Cursor) (offset : Nat) : Bool :=
  (s.at? offset).all fun c => isSpace c || isBreak c

/-- Whether a line ends here. -/
def atLineEnd (s : Cursor) : Bool :=
  (s.at? 0).all isBreak

/-- The cursor past characters of the same line. -/
def skip (s : Cursor) (count : Nat) : Cursor :=
  { s with rest := s.rest.drop count, index := s.index + count, column := s.column + count }

/-- The cursor past spaces and tabs. -/
def skipSpaces (s : Cursor) : Cursor :=
  s.skip (s.rest.takeWhile isSpace).length

/-- The cursor at the end of its line. -/
def skipToLineEnd (s : Cursor) : Cursor :=
  s.skip (s.rest.takeWhile fun c => !isBreak c).length

/-- The cursor past a line break, and how the break reads in a scalar; nothing changes elsewhere. -/
def takeBreak (s : Cursor) : List Char × Cursor :=
  match s.rest with
  | '\r' :: '\n' :: rest => (['\n'], ⟨rest, s.index + 2, s.line + 1, 0⟩)
  | c :: rest =>
    if c = '\u2028' ∨ c = '\u2029' then ([c], ⟨rest, s.index + 1, s.line + 1, 0⟩)
    else if isBreak c then (['\n'], ⟨rest, s.index + 1, s.line + 1, 0⟩)
    else ([], s)
  | [] => ([], s)

/-- The cursor past a line break. -/
def skipBreak (s : Cursor) : Cursor :=
  s.takeBreak.2

/-- Whether a line starts here with three times the character and then a blank. -/
def atTriple (s : Cursor) (c : Char) : Bool :=
  s.column == 0 && s.isAt 0 c && s.isAt 1 c && s.isAt 2 c && s.blankAt 3

/-- Whether a line starts here with a document marker. -/
def atDocumentMarker (s : Cursor) : Bool :=
  s.atTriple '-' || s.atTriple '.'

/-- The cursor past spaces, a comment and the line break, when nothing else stands on the line. -/
def skipLine? (s : Cursor) : Option Cursor :=
  let s := s.skipSpaces
  let s := if s.isAt 0 '#' then s.skipToLineEnd else s
  if s.atLineEnd then some s.skipBreak else none

end Cursor
end Yaml
end RequestGate
