import RequestGate.Toml.Scalar

/-!
# Reading TOML documents

A document is read from the front: an entry, a header, a comment or an empty line at a time.  An entry
is added to the table that the last header opened.  Arrays may stretch over several lines, tables in
braces stand on one.

Every reading function consumes characters, so the length of the text bounds how often they are
called.  Values stand inside one another up to a limit.
-/

namespace RequestGate
namespace Toml

/-- Reads something from the front of a text. -/
abbrev Reader := StateT (List Char) Option

namespace Reader

/-- How many arrays and tables may stand inside one another, and how many names a key may have. -/
def nestingLimit : Nat := 79

/-- The next character, which is not taken. -/
def peek? : Reader (Option Char) := do
  return (← get).head?

/-- Takes the next character if it is the given one, and tells whether it was. -/
def tryChar (c : Char) : Reader Bool := do
  match ← get with
  | d :: rest => if c = d then set rest; return true else return false
  | [] => return false

/-- Takes a character. -/
def char (c : Char) : Reader Unit := do
  if !(← tryChar c) then failure

/-- Takes all characters of a kind. -/
def takeAll (p : Char → Bool) : Reader (List Char) := do
  let text ← get
  set (text.dropWhile p)
  return text.takeWhile p

/-- Skips tabs and spaces. -/
def blanks : Reader Unit := do
  let _ ← takeAll Quoted.isBlank

/-- Takes a line break. -/
def lineBreak : Reader Unit := do
  match Quoted.afterLineBreak? (← get) with
  | some rest => set rest
  | none => failure

/-- Skips a comment if one starts here.  It has the characters that may stand between quotes. -/
def comment : Reader Unit := do
  if ← tryChar '#' then
    let _ ← takeAll Quoted.isPlain

/-- Takes the end of a line, or of the document. -/
def lineEnd : Reader Unit := do
  if (← peek?).isSome then lineBreak

/-- Takes the rest of a line after what it defines. -/
def trailing : Reader Unit := do
  blanks
  comment
  lineEnd

/-- Skips blanks, comments and line breaks between the items of an array. -/
def gap : Nat → Reader Unit
  | 0 => return
  | fuel + 1 => do
    blanks
    match ← peek? with
    | some '#' => comment; lineBreak; gap fuel
    | some '\n' | some '\r' => lineBreak; gap fuel
    | _ => return

/-- Skips blanks, comments and line breaks. -/
def gaps : Reader Unit := do
  gap (← get).length

/-- Characters of a bare name. -/
def isNameChar (c : Char) : Bool :=
  c.isAlphanum || c = '_' || c = '-'

/-- Takes a name: a bare one, or one in quotes on one line. -/
def name : Reader String := do
  match Quoted.readLine? (← get) with
  | some (name, rest) => set rest; return name
  | none =>
    let name ← takeAll isNameChar
    if name = [] then failure
    return String.ofList name

/-- Takes the names of a key, at most `fuel` of them, with points between them. -/
def names : Nat → Reader (List String)
  | 0 => failure
  | fuel + 1 => do
    blanks
    let first ← name
    blanks
    if ← tryChar '.' then return first :: (← names fuel)
    return [first]

/-- Takes a key: the names on the way, and the last one. -/
def key : Reader (List String × String) := do
  let names ← names nestingLimit
  match names.getLast? with
  | some last => return (names.dropLast, last)
  | none => failure

/-- Takes a word, in which a date may be followed by a blank and a time. -/
def word : Reader (List Char) := do
  let word ← takeAll Word.isWordChar
  match ← get with
  | ' ' :: c :: rest =>
    if Word.isDate word && c.isDigit then
      set (c :: rest)
      return word ++ ' ' :: (← takeAll Word.isWordChar)
    return word
  | _ => return word

/-- Takes a scalar. -/
def scalar : Reader Value := do
  match ← peek? with
  | some '"' | some '\'' =>
    match Quoted.read? (← get) with
    | some (text, rest) => set rest; return .text text
    | none => failure
  | _ =>
    match Word.value? (← word) with
    | some value => return value
    | none => failure

mutual

/-- Takes a value, inside which containers may stand for `depth` levels. -/
def value : Nat → Nat → Reader Value
  | 0, _ => failure
  | fuel + 1, depth => do
    match ← peek? with
    | some '[' =>
      char '['
      if depth = 0 then failure
      return .array (← items fuel (depth - 1))
    | some '\x7b' =>
      char '\x7b'
      if depth = 0 then failure
      blanks
      if ← tryChar '\x7d' then return .table .braces []
      return .table .braces (← entries fuel (depth - 1) [])
    | _ => scalar

/-- Takes the items of an array and its closing bracket.  A comma may follow the last item. -/
def items : Nat → Nat → Reader (List Value)
  | 0, _ => failure
  | fuel + 1, depth => do
    gaps
    if ← tryChar ']' then return []
    let item ← value fuel depth
    gaps
    if ← tryChar ',' then return item :: (← items fuel depth)
    char ']'
    return [item]

/-- Takes the entries of a table in braces, after those in the table already, and the closing
brace. -/
def entries : Nat → Nat → Table → Reader Table
  | 0, _, _ => failure
  | fuel + 1, depth, table => do
    let (path, last) ← key
    char '='
    blanks
    let value ← value fuel depth
    let some table := table.insert value path last | failure
    blanks
    if ← tryChar ',' then entries fuel depth table
    else
      char '\x7d'
      return table

end

/-- Takes an entry of a document: its key and its value. -/
def entry : Reader (List String × String × Value) := do
  let (path, last) ← key
  char '='
  blanks
  let value ← value (2 * (← get).length + 2) nestingLimit
  trailing
  return (path, last, value)

end Reader

/-- A document part way through: its tables, and the names that lead to the open one. -/
structure Document where
  root : Table
  path : List String

namespace Document

/-- The document with an entry added to the open table. -/
def withEntry (document : Document) (path : List String) (name : String) (value : Value) :
    Option Document :=
  (Table.atPath (Table.insert value path name) document.path document.root).map
    fun root => { document with root := root }

/-- The document with a table opened. -/
def withHeader (document : Document) (path : List String) (name : String) : Option Document :=
  (document.root.openHeader path name).map fun root => ⟨root, path ++ [name]⟩

/-- The document with an item of an array of tables opened. -/
def withItem (document : Document) (path : List String) (name : String) : Option Document :=
  (document.root.openItem path name).map fun root => ⟨root, path ++ [name]⟩

/-- Takes a header after its first bracket. -/
def header (document : Document) : Reader Document := do
  let isItem ← Reader.tryChar '['
  let (path, name) ← Reader.key
  Reader.char ']'
  if isItem then Reader.char ']'
  Reader.trailing
  let opened := if isItem then document.withItem path name else document.withHeader path name
  match opened with
  | some document => return document
  | none => failure

/-- Takes the rest of a document, at most `fuel` lines of it. -/
def readFor : Nat → Document → Reader Document
  | 0, _ => failure
  | fuel + 1, document => do
    Reader.blanks
    match ← Reader.peek? with
    | none => return document
    | some '#' =>
      Reader.comment
      Reader.lineEnd
      readFor fuel document
    | some '\n' | some '\r' =>
      Reader.lineBreak
      readFor fuel document
    | some '[' =>
      Reader.char '['
      readFor fuel (← document.header)
    | some _ =>
      let (path, name, value) ← Reader.entry
      match document.withEntry path name value with
      | some document => readFor fuel document
      | none => failure

end Document

/-- The table that a document holds. -/
def read? (text : String) : Option Table :=
  let chars := text.toList
  let chars := if chars.head? = some '\uFEFF' then chars.drop 1 else chars
  ((Document.readFor (chars.length + 1) ⟨[], []⟩).run chars).map fun result => result.1.root

/-- The object that a document denotes. -/
def readJson? (text : String) : Option Json :=
  (read? text).map fun table => (Value.table .braces table).toJson

end Toml
end RequestGate
