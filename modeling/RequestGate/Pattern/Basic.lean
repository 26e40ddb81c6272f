import RequestGate.Pattern.CharSet

/-!
# Patterns

A pattern describes texts by characters of sets, conditions on a position, sequence, choice and
repetition.  A text matches when the pattern describes some part of it; conditions see the whole
text.

Matching works on sets of positions: `ends` maps the positions where a part of the text may start to
those where it may end.  Position sets are descending lists, so that the set of positions already
reached by a repetition is extended at its front.
-/

namespace RequestGate

namespace Pattern

/-- How word characters lie around a position. -/
inductive WordEdge where
  | boundary
  | noBoundary
  | start
  | finish
  /-- No word character before. -/
  | startHalf
  /-- No word character after. -/
  | finishHalf
  deriving DecidableEq

/-- A condition on a position. -/
inductive Condition where
  | textStart
  | textEnd
  | lineStart
  | lineEnd
  /-- A start of a line where carriage returns end lines as well. -/
  | lineStartReturn
  | lineEndReturn
  | word (edge : WordEdge) (words : CharSet)

/-- Whether an edge lies between two neighbours that are or are not word characters. -/
def WordEdge.holds : WordEdge → Bool → Bool → Bool
  | boundary, before, after => before != after
  | noBoundary, before, after => before == after
  | start, before, after => !before && after
  | finish, before, after => before && !after
  | startHalf, before, _ => !before
  | finishHalf, _, after => !after

/-- The character before a position. -/
def before? (text : Array Char) (i : Nat) : Option Char :=
  if i = 0 then none else text[i - 1]?

/-- Whether a condition holds at a position. -/
def Condition.holds (text : Array Char) : Condition → Nat → Bool
  | textStart, i => i = 0
  | textEnd, i => i = text.size
  | lineStart, i => i = 0 || before? text i = some '\n'
  | lineEnd, i => i = text.size || text[i]? = some '\n'
  | lineStartReturn, i =>
    i = 0 || before? text i = some '\n' || (before? text i = some '\r' && text[i]? ≠ some '\n')
  | lineEndReturn, i =>
    i = text.size || text[i]? = some '\r' || (text[i]? = some '\n' && before? text i ≠ some '\r')
  | word edge words, i =>
    edge.holds ((before? text i).any words.contains) ((text[i]?).any words.contains)

end Pattern

/-- A description of texts. -/
inductive Pattern where
  /-- The empty text. -/
  | empty
  /-- One character of a set. -/
  | one (set : Pattern.CharSet)
  | condition (condition : Pattern.Condition)
  | sequence (first second : Pattern)
  | choice (first second : Pattern)
  /-- At least and possibly at most so many texts of a pattern. -/
  | repeated (least : Nat) (most : Option Nat) (body : Pattern)

namespace Pattern

/-- The union of two descending lists, put behind the elements already taken, the latest first. -/
def mergeOnto (taken : List Nat) : List Nat → List Nat → List Nat
  | [], ys => taken.reverseAux ys
  | xs, [] => taken.reverseAux xs
  | x :: xs, y :: ys =>
    if x = y then mergeOnto (x :: taken) xs ys
    else if y < x then mergeOnto (x :: taken) xs (y :: ys)
    else mergeOnto (y :: taken) (x :: xs) ys
termination_by xs ys => xs.length + ys.length

/-- The union of two descending lists. -/
def merge (xs ys : List Nat) : List Nat :=
  mergeOnto [] xs ys

/-- The elements of the first descending list that are not in the second, put behind those already
taken, the latest first. -/
def minusOnto (taken : List Nat) : List Nat → List Nat → List Nat
  | [], _ => taken.reverse
  | xs, [] => taken.reverseAux xs
  | x :: xs, y :: ys =>
    if x = y then minusOnto taken xs ys
    else if y < x then minusOnto (x :: taken) xs (y :: ys)
    else minusOnto taken (x :: xs) ys
termination_by xs ys => xs.length + ys.length

/-- The elements of the first descending list that are not in the second. -/
def minus (xs ys : List Nat) : List Nat :=
  minusOnto [] xs ys

/-- A step on position sets taken a number of times; the empty set is final. -/
def times (step : List Nat → List Nat) : Nat → List Nat → List Nat
  | 0, positions => positions
  | n + 1, positions => if positions = [] then [] else times step n (step positions)

/-- The positions reached by at most so many steps from the newest of the positions reached. -/
def reachWithin (step : List Nat → List Nat) : Nat → List Nat → List Nat → List Nat
  | 0, reached, _ => reached
  | n + 1, reached, newest =>
    match minus (step newest) reached with
    | [] => reached
    | next => reachWithin step n (merge next reached) next

/-- The positions where a part of the text that the pattern describes may end, given the positions
where it may start. -/
def ends (text : Array Char) : Pattern → List Nat → List Nat
  | .empty, starts => starts
  | .one set, starts => (starts.filter fun i => (text[i]?).any set.contains).map (· + 1)
  | .condition c, starts => starts.filter (c.holds text)
  | .sequence first second, starts => second.ends text (first.ends text starts)
  | .choice first second, starts => merge (first.ends text starts) (second.ends text starts)
  | .repeated least most body, starts =>
    let least' := times (body.ends text) least starts
    match most with
    | none => reachWithin (body.ends text) (text.size + 1) least' least'
    | some most => reachWithin (body.ends text) (most - least) least' least'

/-- All positions of a text, in descending order. -/
def positions (text : Array Char) : List Nat :=
  (List.range (text.size + 1)).reverse

/-- Whether the pattern describes some part of a text. -/
def isMatch (pattern : Pattern) (text : String) : Bool :=
  let chars := text.toList.toArray
  !(pattern.ends chars (positions chars)).isEmpty

/-- Patterns one after another. -/
def sequenceAll : List Pattern → Pattern
  | [] => .empty
  | [pattern] => pattern
  | pattern :: rest => .sequence pattern (sequenceAll rest)

/-- The number of texts of a pattern that is exactly, and no others. -/
def exactly (count : Nat) (body : Pattern) : Pattern :=
  .repeated count (some count) body

/-- One character. -/
def char (c : Char) : Pattern :=
  .one (.single c)

/-- The characters of a text, one after another. -/
def text (s : String) : Pattern :=
  sequenceAll (s.toList.map char)

/-- A pattern or nothing. -/
def optional (body : Pattern) : Pattern :=
  .repeated 0 (some 1) body

/-- At least one text of a pattern. -/
def oneOrMore (body : Pattern) : Pattern :=
  .repeated 1 none body

/-- A whole text that a pattern describes. -/
def whole (body : Pattern) : Pattern :=
  .sequence (.condition .textStart) (.sequence body (.condition .textEnd))

/-- How much memory a program for a matcher takes, in bytes: a part for every character set and every
choice, and a copy of the body for every repetition that is counted. -/
def weight : Pattern → Nat
  | .empty => 0
  | .one set => set.weight
  | .condition _ => 32
  | .sequence first second => first.weight + second.weight
  | .choice first second => first.weight + second.weight + 40
  | .repeated least most body =>
    match most with
    | none => max least 1 * body.weight + 40
    | some most => max least most * body.weight + (most - least) * 40

/-- The greatest weight of a pattern that is accepted. -/
def weightLimit : Nat := 10 * Nat.pow 2 20

end Pattern
end RequestGate
