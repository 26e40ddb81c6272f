import RequestGate.Pattern.Escape

/-!
# Bracketed sets of pattern text

A bracketed set lists characters, intervals, escapes, named ASCII classes and further bracketed sets.
Between the parts `&&`, `--` and `~~` take the intersection, the difference and the symmetric
difference of what stands to their left with the next part; all three bind alike.

Sets are read with a stack of what is open.  Beside every set goes its depth, because the nesting of a
pattern is limited.
-/

namespace RequestGate
namespace Pattern
namespace Read

/-- A set and how deep its parts are nested. -/
structure SetPart where
  set : CharSet
  depth : Nat

/-- What is open while a bracketed set is read. -/
inductive SetFrame where
  /-- A bracket, with the parts before it in the set around it, the latest first. -/
  | bracket (negated : Bool) (outer : List SetPart)
  /-- An operation that waits for its right side. -/
  | operation (operation : SetOperation) (left : SetPart)

/-- The ASCII classes that are written with colons. -/
def asciiClass? (name : String) : Option CharSet :=
  match name with
  | "alnum" => some (.ranges [(0x30, 0x39), (0x41, 0x5A), (0x61, 0x7A)])
  | "alpha" => some (.ranges [(0x41, 0x5A), (0x61, 0x7A)])
  | "ascii" => some (.ranges [(0x00, 0x7F)])
  | "blank" => some (.ranges [(0x09, 0x09), (0x20, 0x20)])
  | "cntrl" => some (.ranges [(0x00, 0x1F), (0x7F, 0x7F)])
  | "digit" => some (.ranges [(0x30, 0x39)])
  | "graph" => some (.ranges [(0x21, 0x7E)])
  | "lower" => some (.ranges [(0x61, 0x7A)])
  | "print" => some (.ranges [(0x20, 0x7E)])
  | "punct" => some (.ranges [(0x21, 0x2F), (0x3A, 0x40), (0x5B, 0x60), (0x7B, 0x7E)])
  | "space" => some (.ranges [(0x09, 0x0D), (0x20, 0x20)])
  | "upper" => some (.ranges [(0x41, 0x5A)])
  | "word" => some (.ranges [(0x30, 0x39), (0x41, 0x5A), (0x5F, 0x5F), (0x61, 0x7A)])
  | "xdigit" => some (.ranges [(0x30, 0x39), (0x41, 0x46), (0x61, 0x66)])
  | _ => none

/-- Reads a class with colons after its opening bracket. -/
def colonClass? (text : List Char) : Option (CharSet × Bool × List Char) :=
  match text with
  | ':' :: rest =>
    let (negated, rest) := match rest with
      | '^' :: rest => (true, rest)
      | rest => (false, rest)
    match Pieces.cut ':' rest with
    | (name, some (']' :: after)) => (asciiClass? (String.ofList name)).map (·, negated, after)
    | _ => none
  | _ => none

/-- The set of the parts that stand side by side, the latest first. -/
def unionOf : List SetPart → SetPart
  | [] => ⟨.empty, 0⟩
  | [part] => part
  | part :: rest =>
    rest.foldl (fun all other => ⟨.union other.set all.set, max (other.depth + 1) all.depth⟩)
      ⟨part.set, part.depth + 1⟩

/-- A set closed under change of case when the mode asks for it. -/
def foldCase (mode : Mode) (set : CharSet) : CharSet :=
  if !mode.caseless then set
  else if mode.unicode then .caseless set
  else .caselessAscii set

/-- Closes an operation that waits for this right side. -/
def closeOperation (mode : Mode) (right : SetPart) : List SetFrame → SetPart × List SetFrame
  | .operation operation left :: outer =>
    (⟨.combined operation (foldCase mode left.set) (foldCase mode right.set),
      max left.depth right.depth + 1⟩, outer)
  | frames => (right, frames)

/-- Reads hyphens and a closing bracket at the start of a set, which stand for themselves; the fuel
is the length of the text. -/
def leading (mode : Mode) : Nat → List SetPart → List Char → List SetPart × List Char
  | 0, parts, text => (parts, text)
  | fuel + 1, parts, text =>
    match text with
    | '-' :: rest => leading mode fuel (⟨.single '-', 0⟩ :: parts) (skip mode rest)
    | ']' :: rest => if parts.isEmpty then ([⟨.single ']', 0⟩], skip mode rest) else (parts, text)
    | text => (parts, text)

/-- Reads the start of a set after its bracket: whether it is negated, and its leading parts. -/
def openBracket (mode : Mode) (text : List Char) : Bool × List SetPart × List Char :=
  match skip mode text with
  | '^' :: rest =>
    let rest := skip mode rest
    (true, leading mode (rest.length + 1) [] rest)
  | text => (false, leading mode (text.length + 1) [] text)

/-- Reads a character or an escape of a set. -/
def setItem? (mode : Mode) : List Char → Option (Escape × List Char)
  | [] => none
  | '\\' :: rest => escape? mode rest
  | c :: rest => some (.literal c false, rest)

/-- The character of an item that is one; without Unicode it has to be ASCII or a byte. -/
def itemChar? (mode : Mode) : Escape → Option Char
  | .literal c byte => if mode.unicode || byte || c.toNat < 0x80 then some c else none
  | _ => none

/-- The set of an item that stands alone. -/
def itemSet? (mode : Mode) : Escape → Option CharSet
  | .set set => some set
  | item => (itemChar? mode item).map .single

/-- Reads an interval, or an item that starts none. -/
def interval? (mode : Mode) (text : List Char) : Option (CharSet × List Char) := do
  let (item, rest) ← setItem? mode text
  let alone := (itemSet? mode item).map (·, rest)
  match skip mode rest with
  | '-' :: after =>
    match skip mode after with
    | ']' :: _ | '-' :: _ => alone
    | after => do
      let (last, rest) ← setItem? mode after
      let a ← itemChar? mode item
      let b ← itemChar? mode last
      if a ≤ b then some (.interval a b, rest) else none
  | _ => alone

/-- Closes the innermost bracket around some parts. -/
def closeBracket? (mode : Mode) (parts : List SetPart) (frames : List SetFrame) :
    Option (SetPart × List SetPart × List SetFrame) :=
  match closeOperation mode (unionOf parts) frames with
  | (part, .bracket negated outer :: frames) =>
    let set := CharSet.complementIf negated (foldCase mode part.set)
    if !mode.unicode && !set.isAscii then none else some (⟨set, part.depth + 1⟩, outer, frames)
  | _ => none

/-- Reads a bracketed set with the frames that are open and the parts read since the innermost
opened, the latest first.  The fuel is the length of the text. -/
def bracketFrom? (mode : Mode) :
    Nat → List SetFrame → List SetPart → List Char → Option (SetPart × List Char)
  | 0, _, _, _ => none
  | fuel + 1, frames, parts, text =>
    let operate (operation : SetOperation) (rest : List Char) :=
      let (left, frames) := closeOperation mode (unionOf parts) frames
      bracketFrom? mode fuel (.operation operation left :: frames) [] rest
    match skip mode text with
    | [] => none
    | '[' :: rest =>
      match colonClass? rest with
      | some (set, negated, rest) => do
        let set ← modeSet? mode negated set
        bracketFrom? mode fuel frames (⟨set, 0⟩ :: parts) rest
      | none =>
        let (negated, inner, rest) := openBracket mode rest
        bracketFrom? mode fuel (.bracket negated parts :: frames) inner rest
    | ']' :: rest =>
      match closeBracket? mode parts frames with
      | some (part, _, []) => some (part, rest)
      | some (part, outer, frames) => bracketFrom? mode fuel frames (part :: outer) rest
      | none => none
    | '&' :: '&' :: rest => operate .intersection rest
    | '-' :: '-' :: rest => operate .difference rest
    | '~' :: '~' :: rest => operate .symmetricDifference rest
    | text => do
      let (set, rest) ← interval? mode text
      bracketFrom? mode fuel frames (⟨set, 0⟩ :: parts) rest

/-- Reads a bracketed set after its opening bracket. -/
def bracket? (mode : Mode) (text : List Char) : Option (SetPart × List Char) :=
  let (negated, parts, rest) := openBracket mode text
  bracketFrom? mode (text.length + 1) [.bracket negated []] parts rest

end Read
end Pattern
end RequestGate
