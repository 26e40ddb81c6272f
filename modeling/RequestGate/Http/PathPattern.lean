import RequestGate.Text.Pieces

/-!
# Path patterns of the server

The server matches the path of a request as it was sent, character by character.  A pattern is read
from a template: a name in braces stands for a nonempty text without slashes, and may have other text
of its segment before it but not after it; a name with a star stands for the nonempty rest of the
path; a doubled brace is the brace itself.

Of two patterns that match one path, the one with a literal character at their first difference is
preferred.  Patterns clash when no path could tell them apart in this way.
-/

namespace RequestGate
namespace Http

/-- A part of a pattern. -/
inductive PathPart where
  | literal (c : Char)
  /-- A nonempty text without slashes. -/
  | parameter
  /-- The nonempty rest of a path. -/
  | rest
  deriving DecidableEq

/-- A pattern for paths. -/
abbrev PathPattern := List PathPart

namespace PathPattern

/-- How many named parts a pattern can have. -/
def maxParameters : Nat := 25

/-- A template with doubled braces replaced by one that stands for itself. -/
def unescape : List Char → List (Char × Bool)
  | '\x7b' :: '\x7b' :: rest => ('\x7b', true) :: unescape rest
  | '\x7d' :: '\x7d' :: rest => ('\x7d', true) :: unescape rest
  | c :: rest => (c, false) :: unescape rest
  | [] => []

/-- What a template part is read for: a literal, or a name in braces with what it stands for. -/
inductive Reading where
  | outside
  /-- After an opening brace. -/
  | opened
  /-- Inside a name that stands for this part; a lone star is no name. -/
  | named (part : PathPart) (bare : Bool)
  /-- After a closing brace that ends this part. -/
  | closed (part : PathPart)

/-- Reads one character; gives the part that it completes. -/
def step : Reading → Char × Bool → Option (Reading × Option PathPart)
  | .outside, ('\x7b', false) => some (.opened, none)
  | .outside, ('\x7d', false) => none
  | .outside, (c, _) => some (.outside, some (.literal c))
  | .opened, ('\x7d', _) => none
  | .opened, ('*', _) => some (.named .rest true, none)
  | .opened, _ => some (.named .parameter false, none)
  | .named part bare, ('\x7d', false) => if bare then none else some (.closed part, some part)
  | .named _ _, ('*', _) => none
  | .named _ _, ('/', _) => none
  | .named part _, _ => some (.named part false, none)
  | .closed .parameter, ('/', _) => some (.outside, some (.literal '/'))
  | .closed _, _ => none

/-- The parts of a template. -/
def parts? (reading : Reading) : List (Char × Bool) → Option PathPattern
  | [] =>
    match reading with
    | .outside | .closed _ => some []
    | .opened | .named _ _ => none
  | c :: rest =>
    match step reading c with
    | none => none
    | some (next, part) => (parts? next rest).map (part.toList ++ ·)

/-- Whether a segment of a template may start as it does: a colon or a star there marks names in
another notation. -/
def isSegment (segment : List Char) : Bool :=
  segment.head? ≠ some ':' && segment.head? ≠ some '*'

/-- The pattern of a template, which starts with a slash. -/
def ofTemplate? (template : String) : Option PathPattern :=
  let chars := template.toList
  if chars.head? = some '/' && (Pieces.pieces '/' chars).all isSegment then
    (parts? .outside (unescape chars)).filter fun pattern =>
      pattern.count .parameter ≤ maxParameters
  else none

/-- Whether a pattern matches a path. -/
def isMatch : PathPattern → List Char → Bool
  | [], path => path = []
  | .literal c :: parts, path =>
    match path with
    | d :: path => c = d && isMatch parts path
    | [] => false
  | .parameter :: parts, path =>
    path.takeWhile (· ≠ '/') ≠ [] && isMatch parts (path.dropWhile (· ≠ '/'))
  | .rest :: _, path => path ≠ []

/-- Whether a part stands for any text. -/
def isOpen : PathPart → Bool
  | .literal _ => false
  | .parameter | .rest => true

/-- Whether a pattern is preferred to another one: it has a literal at their first difference. -/
def isPreferred : PathPattern → PathPattern → Bool
  | a :: as, b :: bs => if a = b then isPreferred as bs else !isOpen a && isOpen b
  | _, _ => false

/-- Whether two patterns cannot both be served: they are the same, or the parts of their first
difference both stand for any text. -/
def clashes : PathPattern → PathPattern → Bool
  | [], [] => true
  | a :: as, b :: bs => if a = b then a = .rest || clashes as bs else isOpen a && isOpen b
  | _, _ => false

end PathPattern
end Http
end RequestGate
