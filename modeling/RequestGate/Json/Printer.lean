import RequestGate.Json.Basic

/-!
# Writing JSON text

The compact text of a value has no blanks; `pretty` indents every item by two further spaces and
keeps empty containers on one line.  In a text, quotes, backslashes and control characters are
escaped and everything else stands as it is.
-/

namespace RequestGate
namespace Json

/-- A hexadecimal digit in lower case. -/
def hexDigit (n : Nat) : Char :=
  if n < 10 then Char.ofNat (0x30 + n) else Char.ofNat (0x61 + (n - 10))

/-- A character inside a quoted text. -/
def escapeChar (c : Char) : List Char :=
  if c = '"' then ['\\', '"']
  else if c = '\\' then ['\\', '\\']
  else if c = '\x08' then ['\\', 'b']
  else if c = '\x0c' then ['\\', 'f']
  else if c = '\n' then ['\\', 'n']
  else if c = '\r' then ['\\', 'r']
  else if c = '\t' then ['\\', 't']
  else if c < ' ' then ['\\', 'u', '0', '0', hexDigit (c.toNat / 16), hexDigit (c.toNat % 16)]
  else [c]

/-- A text in quotes. -/
def quote (s : String) : String :=
  String.ofList ('"' :: s.toList.flatMap escapeChar ++ ['"'])

/-- The text of a number. -/
def numberText : Number → String
  | .integer i => toString i
  | .double x => Numeral.Layout.json.write x

mutual

/-- The compact text of a value. -/
def compact : Json → String
  | .null => "null"
  | .bool true => "true"
  | .bool false => "false"
  | .number n => numberText n
  | .string s => quote s
  | .array items => "[" ++ String.intercalate "," (compactItems items) ++ "]"
  | .object members => "\x7b" ++ String.intercalate "," (compactMembers members) ++ "\x7d"

/-- The compact texts of items. -/
def compactItems : List Json → List String
  | [] => []
  | item :: rest => compact item :: compactItems rest

/-- The compact texts of members. -/
def compactMembers : List (String × Json) → List String
  | [] => []
  | (name, value) :: rest => (quote name ++ ":" ++ compact value) :: compactMembers rest

end

/-- Lines between an opening and a closing bracket, each indented by one step more than the
brackets; brackets with nothing between them stay on one line. -/
def bracket (opening closing indent : String) : List String → String
  | [] => opening ++ closing
  | lines =>
    opening ++ String.intercalate "," (lines.map fun line => "\n" ++ indent ++ "  " ++ line) ++ "\n" ++
      indent ++ closing

mutual

/-- The indented text of a value that starts on a line with this indentation. -/
def prettyAt (indent : String) : Json → String
  | .array items => bracket "[" "]" indent (prettyItems (indent ++ "  ") items)
  | .object members => bracket "\x7b" "\x7d" indent (prettyMembers (indent ++ "  ") members)
  | value => compact value

/-- The indented texts of items. -/
def prettyItems (indent : String) : List Json → List String
  | [] => []
  | item :: rest => prettyAt indent item :: prettyItems indent rest

/-- The indented texts of members. -/
def prettyMembers (indent : String) : List (String × Json) → List String
  | [] => []
  | (name, value) :: rest =>
    (quote name ++ ": " ++ prettyAt indent value) :: prettyMembers indent rest

end

/-- The text of a value with two spaces of indentation. -/
def pretty (value : Json) : String :=
  prettyAt "" value

end Json
end RequestGate
