import RequestGate.Json.Basic
import RequestGate.Text.Debug
import RequestGate.Yaml.Node

/-!
# Values of a YAML document

What the nodes of a document denote.  A plain scalar is nothing, a truth value, an integer or a
floating-point number where it has the form of one, and a text otherwise; a scalar in quotes is a
text.  A tag of the core schema asks for a type, and a tag that starts with an exclamation mark is kept
around the value.

A document is refused when it nests too deep, follows too many aliases, holds an integer past 64 bits
or gives one key twice.

Values convert to JSON (`toJson`): tags are dropped, numbers without a finite value are nothing, and
keys that are numbers or truth values are written as text.  Other keys are refused.
-/

namespace RequestGate
namespace Yaml

/-- A floating-point number. -/
inductive Real where
  | finite (x : Binary64)
  | infinite (negative : Bool)
  | notANumber

/-- A value of a document. -/
inductive Value where
  | null
  | bool (b : Bool)
  | integer (i : Int)
  | real (x : Real)
  | string (s : String)
  | sequence (items : List Value)
  | mapping (entries : List (Value × Value))
  | tagged (tag : String) (value : Value)

/-- Whether two numbers are the same as keys: all values without a number are. -/
def Real.same : Real → Real → Bool
  | finite x, finite y => x.sameValue y
  | infinite a, infinite b => a == b
  | notANumber, notANumber => true
  | _, _ => false

/-- The text of a number. -/
def Real.text : Real → String
  | .finite x => Numeral.Layout.key.write x
  | .infinite false => ".inf"
  | .infinite true => "-.inf"
  | .notANumber => ".nan"

namespace Value

mutual

/-- Whether two values are the same. -/
def same : Value → Value → Bool
  | null, null => true
  | bool a, bool b => a == b
  | integer a, integer b => a == b
  | real a, real b => a.same b
  | string a, string b => a == b
  | sequence a, sequence b => sameItems a b
  | mapping a, mapping b => a.length == b.length && sameEntries a b
  | tagged s a, tagged t b => s == t && same a b
  | _, _ => false

/-- Whether two sequences have the same items in the same order. -/
def sameItems : List Value → List Value → Bool
  | [], [] => true
  | a :: as, b :: bs => same a b && sameItems as bs
  | _, _ => false

/-- Whether every entry has an entry with the same key and value in another mapping. -/
def sameEntries : List (Value × Value) → List (Value × Value) → Bool
  | [], _ => true
  | (key, value) :: rest, other => (other.any fun entry => same key entry.1 && same value entry.2) &&
      sameEntries rest other

end

/-! ## Scalars -/

/-- The text without a character at its start, if it starts so. -/
def after? (start text : List Char) : Option (List Char) :=
  if start.isPrefixOf text then some (text.drop start.length) else none

/-- A text without a sign at its start. -/
def unsigned (text : List Char) : List Char :=
  match text with
  | '+' :: rest => rest
  | '-' :: rest => rest
  | rest => rest

/-- Whether a text starts with a sign. -/
def startsSigned (text : List Char) : Bool :=
  text.head? = some '+' || text.head? = some '-'

/-- Whether a text is digits after a needless zero, which is no number. -/
def isPaddedDigits (text : List Char) : Bool :=
  let digits := unsigned text
  1 < digits.length && digits.head? = some '0' && digits.all Char.isDigit

/-- The number that digits of a base denote. -/
def digits? (base : Nat) (text : List Char) : Option Nat :=
  if text = [] then none
  else text.foldlM (fun n c =>
    (Json.Token.hexValue? c).bind fun d => if d < base then some (n * base + d) else none) 0

/-- The magnitude of an integer written with a base mark, or in decimal. -/
def magnitude? (text : List Char) : Option Nat :=
  match text with
  | '0' :: 'x' :: rest => digits? 16 rest
  | '0' :: 'o' :: rest => digits? 8 rest
  | '0' :: 'b' :: rest => digits? 2 rest
  | rest => if isPaddedDigits rest then none else digits? 10 rest

/-- The integer that a text is. -/
def integer? (text : List Char) : Option Int :=
  match text with
  | '-' :: rest => (magnitude? rest).map fun n => -(n : Int)
  | '+' :: rest => (magnitude? rest).map Int.ofNat
  | rest => (magnitude? rest).map Int.ofNat

/-- The floating-point number that a text is. -/
def real? (text : String) : Option Real :=
  let unplussed := (after? ['+'] text.toList).getD text.toList
  if text.toList.head? = some '+' && startsSigned unplussed then none
  else if [".inf", ".Inf", ".INF"].contains (String.ofList unplussed) then some (.infinite false)
  else if ["-.inf", "-.Inf", "-.INF"].contains text then some (.infinite true)
  else if [".nan", ".NaN", ".NAN"].contains text then some .notANumber
  else (Numeral.readFree? unplussed).map .finite

/-- The truth value that a text is. -/
def bool? (text : String) : Option Bool :=
  if ["true", "True", "TRUE"].contains text then some true
  else if ["false", "False", "FALSE"].contains text then some false
  else none

/-- Whether a text stands for nothing. -/
def isNull (text : String) : Bool :=
  ["null", "Null", "NULL", "~"].contains text

/-- An integer of at most 64 bits. -/
def ofInt? (i : Int) : Option Value :=
  if Number.InRange i then some (integer i) else none

/-- Integers up to 128 bits are read as integers, and refused where they exceed 64. -/
def IsWide (i : Int) : Prop :=
  -(Nat.pow 2 127) ≤ i ∧ i < Nat.pow 2 128

instance (i : Int) : Decidable (IsWide i) :=
  inferInstanceAs (Decidable (_ ∧ _))

/-- The integer that a text is read as. -/
def wideInteger? (text : String) : Option Int :=
  (integer? text.toList).filter IsWide

/-- The value of a plain scalar. -/
def ofPlain? (text : String) : Option Value :=
  if text = "" || isNull text then some null
  else
    match bool? text, wideInteger? text with
    | some b, _ => some (bool b)
    | none, some i => ofInt? i
    | none, none =>
      match if isPaddedDigits text.toList then none else real? text with
      | some x => some (real x)
      | none => some (string text)

/-- The tags of the core schema that ask for a type. -/
def coreTag (name : String) : String :=
  "tag:yaml.org,2002:" ++ name

/-- The value of a scalar whose tag is not kept. -/
def ofScalar? (tag : Option String) (text : String) (plain : Bool) : Option Value :=
  match tag with
  | none => if plain then ofPlain? text else some (string text)
  | some tag =>
    if tag = coreTag "bool" then (bool? text).map bool
    else if tag = coreTag "int" then (wideInteger? text).bind ofInt?
    else if tag = coreTag "float" then (real? text).map real
    else if tag = coreTag "null" then (if isNull text then some null else none)
    else some (string text)

/-! ## Nodes -/

/-- How deep collections may be nested. -/
def depthLimit : Nat := 128

/-- The tag that is kept around a value: it starts with an exclamation mark. -/
def keptTag? : Option String → Option String
  | some tag =>
    match tag.toList with
    | '!' :: rest => some (String.ofList rest)
    | _ => none
  | none => none

/-- A value in the tag that is kept; a kept tag may not be empty. -/
def withTag? (tag : Option String) (value : Value) : Option Value :=
  match keptTag? tag with
  | none => some value
  | some "" => none
  | some name => some (tagged ("!" ++ name) value)

/-- A computation that counts the aliases followed. -/
abbrev Following := StateT Nat Option

/-- The node that a node is or refers to, counting the alias. -/
def follow (document : Node.Document) : Node → Following Node
  | .alias number => do
    let followed := (← get) + 1
    set followed
    if followed ≤ 100 * document.events then document.anchored? number else none
  | node => pure node

/-- Adds an entry to a mapping unless its key is there already. -/
def addEntry? (entries : List (Value × Value)) (key : Value) : Option Unit :=
  if entries.any fun entry => same entry.1 key then none else some ()

/-- The value of a node in which collections are nested to a depth. -/
def ofNode (document : Node.Document) : Nat → Node → Following Value
  | depth, node => do
    match ← follow document node with
    | .alias _ => failure
    | .scalar tag text plain =>
      if (keptTag? tag).isSome then
        withTag? tag (← ofScalar? none text plain)
      else ofScalar? tag text plain
    | .sequence tag items =>
      match depth with
      | 0 => failure
      | depth + 1 =>
        let items ← items.mapM (ofNode document depth)
        withTag? tag (sequence items)
    | .mapping tag entries =>
      match depth with
      | 0 => failure
      | depth + 1 =>
        let entries ← entries.foldlM (fun done (key, value) => do
          let key ← ofNode document depth key
          addEntry? done key
          let value ← ofNode document depth value
          return (key, value) :: done) []
        withTag? tag (mapping entries.reverse)

/-- The value of a document. -/
def ofDocument? (document : Node.Document) : Option Value :=
  ((ofNode document depthLimit document.root).run 0).map Prod.fst

/-- The value that a text denotes. -/
def read? (text : String) : Option Value := do
  let tokens ← Token.tokens? text
  let events ← Event.ofTokens? tokens
  let document ← Node.ofEvents? events
  ofDocument? document

/-! ## Conversion to JSON -/

mutual

/-- A value as it is shown in a message. -/
def inspect : Value → String
  | null => "Null"
  | bool b => "Bool(" ++ (if b then "true" else "false") ++ ")"
  | integer i => "Number(" ++ toString i ++ ")"
  | real x => "Number(" ++ x.text ++ ")"
  | string s => "String(" ++ Inspect.quote s ++ ")"
  | sequence items => "Sequence [" ++ String.intercalate ", " (inspectItems items) ++ "]"
  | mapping entries =>
    "Mapping \x7b" ++ String.intercalate ", " (inspectEntries entries) ++ "\x7d"
  | tagged tag value =>
    "TaggedValue \x7b tag: " ++ tag ++ ", value: " ++ inspect value ++ " \x7d"

/-- Items as they are shown. -/
def inspectItems : List Value → List String
  | [] => []
  | item :: rest => inspect item :: inspectItems rest

/-- Entries as they are shown: simple keys stand alone. -/
def inspectEntries : List (Value × Value) → List String
  | [] => []
  | (key, value) :: rest =>
    ((match key with
      | bool b => if b then "true" else "false"
      | integer i => toString i
      | real x => x.text
      | string s => Inspect.quote s
      | other => inspect other) ++ ": " ++ inspect value) :: inspectEntries rest

end

/-- The text of a key; a key without one is shown. -/
def keyText : Value → Except String String
  | string s => .ok s
  | integer i => .ok (toString i)
  | real x => .ok x.text
  | bool b => .ok (if b then "true" else "false")
  | other => .error other.inspect

mutual

/-- A value as JSON; fails with the first key that has no text. -/
def toJson : Value → Except String Json
  | null => .ok .null
  | bool b => .ok (.bool b)
  | integer i => .ok (.ofInt i)
  | real (.finite x) => .ok (.number (.double x))
  | real _ => .ok .null
  | string s => .ok (.string s)
  | sequence items => (itemsJson items).map .array
  | mapping entries => (entriesJson [] entries).map .object
  | tagged _ value => toJson value

/-- Items as JSON. -/
def itemsJson : List Value → Except String (List Json)
  | [] => .ok []
  | item :: rest => do
    let item ← toJson item
    let rest ← itemsJson rest
    return item :: rest

/-- Entries as members of an object, after those already converted.  Of two keys with the same text
the later gives the value. -/
def entriesJson (done : Fields Json) : List (Value × Value) → Except String (Fields Json)
  | [] => .ok done
  | (key, value) :: rest => do
    let name ← keyText key
    let value ← toJson value
    entriesJson (done.insert name value) rest

end

end Value
end Yaml
end RequestGate
