import RequestGate.Pattern.Bracket

/-!
# Reading pattern text

The syntax of patterns: branches separated by bars, groups in parentheses, repetitions after the part
they repeat, modes in `(?...)`, and the characters, sets and conditions of the escapes.  A text that
is no pattern is refused, and so are nesting past `depthLimit` and programs past the weight limit.

The reader keeps a stack of the groups that are open.  Modes hold from where they are set to the end
of the group, across its branches.
-/

namespace RequestGate
namespace Pattern

namespace Read

/-- How deep the parts of a pattern may be nested. -/
def depthLimit : Nat := 250

/-- A part of a pattern and how deep its own parts are nested. -/
structure Part where
  pattern : Pattern
  depth : Nat
  /-- The part sets modes and cannot be repeated. -/
  setsMode : Bool := false

/-- A group that is open. -/
structure Group where
  /-- The branches before the one that holds the group, the latest first. -/
  branches : List Part
  /-- The parts before the group in its branch, the latest first. -/
  parts : List Part
  mode : Mode

/-- A pattern part way through. -/
structure State where
  groups : List Group
  branches : List Part
  parts : List Part
  mode : Mode
  /-- The names of groups. -/
  names : List String

/-- The parts of a branch, the latest first, as one. -/
def joinParts : List Part → Part
  | [] => ⟨.empty, 0, false⟩
  | [part] => part
  | parts =>
    ⟨parts.foldl (fun after part => .sequence part.pattern after) .empty,
      parts.foldl (fun depth part => max depth part.depth) 0 + 1, false⟩

/-- The branches, the latest first, as one. -/
def joinBranches : List Part → Part
  | [] => ⟨.empty, 0, false⟩
  | [branch] => branch
  | last :: branches =>
    ⟨branches.foldl (fun after branch => .choice branch.pattern after) last.pattern,
      branches.foldl (fun depth branch => max depth branch.depth) last.depth + 1, false⟩

/-- What has been read of the innermost group. -/
def State.body (state : State) : Part :=
  joinBranches (joinParts state.parts :: state.branches)

/-- The state with one more part. -/
def State.push (state : State) (pattern : Pattern) (depth : Nat) : State :=
  { state with parts := ⟨pattern, depth, false⟩ :: state.parts }

/-- The state with a group opened. -/
def State.openGroup (state : State) (mode : Mode) (names : List String) : State :=
  ⟨⟨state.branches, state.parts, state.mode⟩ :: state.groups, [], [], mode, names⟩

/-- The state with the innermost group closed. -/
def State.closeGroup? (state : State) : Option State :=
  match state.groups with
  | [] => none
  | group :: groups =>
    let body := state.body
    some ⟨groups, group.branches, ⟨body.pattern, body.depth + 1, false⟩ :: group.parts, group.mode,
      state.names⟩

/-- The mode with one switch set. -/
def setSwitch? (value : Bool) (mode : Mode) : Char → Option Mode
  | 'i' => some { mode with caseless := value }
  | 'm' => some { mode with multiLine := value }
  | 's' => some { mode with dotAll := value }
  | 'U' => some mode
  | 'u' => some { mode with unicode := value }
  | 'R' => some { mode with returns := value }
  | 'x' => some { mode with verbose := value }
  | _ => none

/-- Reads switches up to a colon or a closing parenthesis, which is given as well.  Each letter and
the minus sign may stand once; `seen` lists those read, the latest first. -/
def switches? (mode : Mode) (seen : List Char) :
    List Char → Option (Mode × List Char × Char × List Char)
  | [] => none
  | c :: rest =>
    if c = ':' ∨ c = ')' then
      if seen.head? = some '-' then none else some (mode, seen, c, rest)
    else if seen.contains c then none
    else if c = '-' then switches? mode ('-' :: seen) rest
    else
      match setSwitch? (!seen.contains '-') mode c with
      | some mode => switches? mode (c :: seen) rest
      | none => none

/-- Whether a character may stand in the name of a group. -/
def isNameChar (isFirst : Bool) (c : Char) : Bool :=
  let alphabetic := c.isAlpha || (0x80 ≤ c.toNat &&
    (Unicode.named? "alphabetic").any fun set => set.contains c.toNat)
  if isFirst then c = '_' || alphabetic
  else c = '_' || c = '.' || c = '[' || c = ']' || c.isDigit || alphabetic ||
    (0x80 ≤ c.toNat && (Unicode.named? "number").any fun set => set.contains c.toNat)

/-- Reads the name of a group up to its closing bracket. -/
def groupName? (text : List Char) : Option (String × List Char) :=
  match Pieces.cut '>' text with
  | (c :: name, some rest) =>
    if isNameChar true c && name.all (isNameChar false) then some (String.ofList (c :: name), rest)
    else none
  | _ => none

/-- Opens a group with a name. -/
def namedGroup? (state : State) (text : List Char) : Option (State × List Char) := do
  let (name, rest) ← groupName? text
  if state.names.contains name then none
  else some (state.openGroup state.mode (name :: state.names), rest)

/-- Reads what follows an opening parenthesis. -/
def group? (state : State) (text : List Char) : Option (State × List Char) :=
  match skip state.mode text with
  | '?' :: '=' :: _ | '?' :: '!' :: _ | '?' :: '<' :: '=' :: _ | '?' :: '<' :: '!' :: _ => none
  | '?' :: 'P' :: '<' :: rest => namedGroup? state rest
  | '?' :: '<' :: rest => namedGroup? state rest
  | '?' :: rest =>
    match switches? state.mode [] rest with
    | some (mode, _, ':', rest) => some (state.openGroup mode state.names, rest)
    | some (mode, _ :: _, _, rest) =>
      some ({ state with parts := ⟨.empty, 0, true⟩ :: state.parts, mode := mode }, rest)
    | _ => none
  | rest => some (state.openGroup state.mode state.names, rest)

/-- The state with the last part repeated. -/
def State.repeatLast? (state : State) (least : Nat) (most : Option Nat) : Option State :=
  match state.parts with
  | part :: parts =>
    if part.setsMode then none
    else
      let repeated : Part := ⟨.repeated least most part.pattern, part.depth + 1, false⟩
      some { state with parts := repeated :: parts }
  | [] => none

/-- The text after the question mark that makes a repetition lazy, if it stands here. -/
def dropLazy : List Char → List Char
  | '?' :: rest => rest
  | rest => rest

/-- Reads the digits of a count; `read` holds the digits so far, the latest first.  The fuel is the
length of the text. -/
def countDigits (mode : Mode) : Nat → List Char → List Char → List Char × List Char
  | 0, read, text => (read.reverse, text)
  | fuel + 1, read, text =>
    match text with
    | c :: rest =>
      if c.isDigit then countDigits mode fuel (c :: read) (skip mode rest) else (read.reverse, text)
    | [] => (read.reverse, [])

/-- Reads a count with blanks around it: a number of at most 32 bits, absent when there is no
digit. -/
def count? (mode : Mode) (text : List Char) : Option (Option Nat × List Char) :=
  let text := text.dropWhile Blank.isBlank
  let (digits, rest) := countDigits mode (text.length + 1) [] text
  let rest := skip mode (rest.dropWhile Blank.isBlank)
  if digits = [] then some (none, rest)
  else if Numeral.value digits < Nat.pow 2 32 then some (some (Numeral.value digits), rest)
  else none

/-- Reads a counted repetition after its opening brace. -/
def counted? (state : State) (text : List Char) : Option (State × List Char) := do
  let (least, rest) ← count? state.mode (skip state.mode text)
  let least ← least
  let (most, rest) ← match rest with
    | ',' :: rest =>
      match skip state.mode rest with
      | '\x7d' :: rest => some (none, '\x7d' :: rest)
      | rest => do
        let (most, rest) ← count? state.mode rest
        some (some (← most), rest)
    | rest => some (some least, rest)
  match rest with
  | '\x7d' :: rest =>
    if most.any (· < least) then none
    else
      let state ← state.repeatLast? least most
      some (state, dropLazy (skip state.mode rest))
  | _ => none

/-- The set of the dot. -/
def dotSet? (mode : Mode) : Option CharSet :=
  if !mode.unicode then none
  else if mode.dotAll then some .full
  else if mode.returns then some (.complement (.ranges [(0x0A, 0x0A), (0x0D, 0x0D)]))
  else some (.complement (.single '\n'))

/-- The condition of a circumflex or, when `atEnd`, of a dollar sign. -/
def lineCondition (mode : Mode) (atEnd : Bool) : Condition :=
  match mode.multiLine, mode.returns, atEnd with
  | false, _, false => .textStart
  | false, _, true => .textEnd
  | true, false, false => .lineStart
  | true, false, true => .lineEnd
  | true, true, false => .lineStartReturn
  | true, true, true => .lineEndReturn

/-- The pattern of a character that stands for itself; a byte outside ASCII is no character. -/
def literal? (mode : Mode) (c : Char) (byte : Bool) : Option Pattern :=
  if !mode.unicode && byte && 0x80 ≤ c.toNat then none
  else some (.one (foldCase mode (.single c)))

/-- The pattern of an escape. -/
def ofEscape? (mode : Mode) : Escape → Option Pattern
  | .literal c byte => literal? mode c byte
  | .set set => some (.one set)
  | .condition c => some (.condition c)

/-- Reads the next part of a pattern, which starts with `c`. -/
def step? (state : State) (c : Char) (rest : List Char) : Option (State × List Char) :=
  match c with
  | '(' => group? state rest
  | ')' => state.closeGroup?.map (·, rest)
  | '|' =>
    some ({ state with branches := joinParts state.parts :: state.branches, parts := [] }, rest)
  | '[' => (bracket? state.mode rest).map fun (part, rest) =>
      (state.push (.one part.set) part.depth, rest)
  | '?' => (state.repeatLast? 0 (some 1)).map (·, dropLazy rest)
  | '*' => (state.repeatLast? 0 none).map (·, dropLazy rest)
  | '+' => (state.repeatLast? 1 none).map (·, dropLazy rest)
  | '\x7b' => counted? state rest
  | '\\' => do
    let (escape, rest) ← escape? state.mode rest
    return (state.push (← ofEscape? state.mode escape) 0, rest)
  | '.' => (dotSet? state.mode).map fun set => (state.push (.one set) 0, rest)
  | '^' => some (state.push (.condition (lineCondition state.mode false)) 0, rest)
  | '$' => some (state.push (.condition (lineCondition state.mode true)) 0, rest)
  | c => (literal? state.mode c false).map fun pattern => (state.push pattern 0, rest)

/-- Reads a pattern; the fuel is the length of the text. -/
def read? : Nat → State → List Char → Option Part
  | 0, _, _ => none
  | fuel + 1, state, text =>
    match skip state.mode text with
    | [] => if state.groups.isEmpty then some state.body else none
    | c :: rest =>
      match step? state c rest with
      | some (state, rest) => read? fuel state rest
      | none => none

end Read

/-- The pattern that a text writes. -/
def ofText? (text : String) : Option Pattern := do
  let chars := text.toList
  let part ← Read.read? (chars.length + 1) ⟨[], [], [], {}, []⟩ chars
  if part.depth ≤ Read.depthLimit ∧ part.pattern.weight ≤ weightLimit then some part.pattern
  else none

end Pattern
end RequestGate
