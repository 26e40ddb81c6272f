import RequestGate.Text.Case
import RequestGate.Text.Pieces
import RequestGate.Text.Utf8

/-!
# Request targets

What a request asks for: a path with an optional query, possibly after a scheme and an authority; an
authority alone; or `*`.  A fragment is dropped.  `Authority.isValid` says which texts name a host,
with or without a user before it and a number after it.

Paths and queries are taken as they are sent.  Characters beyond ASCII may stand in them, and so may
some that should have been escaped.
-/

namespace RequestGate
namespace Http

namespace Authority

/-- ASCII characters that may stand in an authority. -/
def isPlain (c : Char) : Bool :=
  c.isAlphanum || "!$&'()*+,-.:;=@[]_~".toList.contains c

/-- Characters that end an authority. -/
def isEnd (c : Char) : Bool :=
  c = '/' || c = '?' || c = '#'

/-- What has been seen of an authority. -/
structure Progress where
  /-- How many colons stand after the last user mark or closing bracket. -/
  colons : Nat
  opened : Bool
  closed : Bool
  /-- Whether an escape stands after the last user mark or closing bracket. -/
  escaped : Bool
  /-- Whether the last character ends a user. -/
  afterUser : Bool

/-- Reads one character. -/
def step (p : Progress) (c : Char) : Option Progress :=
  let p := { p with afterUser := false }
  if c = ':' then if p.colons < 8 then some { p with colons := p.colons + 1 } else none
  else if c = '[' then if p.escaped || p.opened then none else some { p with opened := true }
  else if c = ']' then
    if p.opened && !p.closed then some { p with closed := true, colons := 0, escaped := false }
    else none
  else if c = '@' then some { p with colons := 0, escaped := false, afterUser := true }
  else if c = '%' then some { p with escaped := true }
  else if isPlain c then some p
  else none

/-- Whether an authority may end here. -/
def Progress.isComplete (p : Progress) : Bool :=
  p.opened == p.closed && p.colons ≤ 1 && !p.escaped && !p.afterUser

/-- Whether a text without ending characters is an authority, possibly an empty one. -/
def isValidOrEmpty (text : List Char) : Bool :=
  (text.foldlM step ⟨0, false, false, false, false⟩).any Progress.isComplete

/-- Whether a text is an authority. -/
def isValid (text : String) : Bool :=
  text ≠ "" && isValidOrEmpty text.toList

end Authority

/-- What a request asks for. -/
structure Target where
  scheme : Option String
  authority : String
  path : String
  query : Option String
  deriving DecidableEq

namespace Target

/-- The longest target, in bytes. -/
def maxLength : Nat := 65534

/-- Characters of a path. -/
def isPathChar (c : Char) : Bool :=
  '\x7f' ≤ c || c.isAlphanum || "!\"$%&'()*+,-./:;=@[\\]^_\x7b|\x7d~".toList.contains c

/-- Characters of a query. -/
def isQueryChar (c : Char) : Bool :=
  '!' ≤ c && !("\"#<>".toList.contains c)

/-- Characters of a scheme. -/
def isSchemeChar (c : Char) : Bool :=
  c.isAlphanum || c = '+' || c = '-' || c = '.'

/-- A path and a query with the fragment dropped. -/
def pathAndQuery? (text : List Char) : Option (List Char × Option (List Char)) :=
  let (path, query) := Pieces.cut '?' (text.takeWhile (· ≠ '#'))
  if path.all isPathChar && query.all (·.all isQueryChar) then some (path, query) else none

/-- The scheme of a text and what follows its two slashes.  The web's own schemes are written in
lower case. -/
def scheme? (text : List Char) : Option (List Char × List Char) :=
  match text.span isSchemeChar with
  | (scheme, ':' :: '/' :: '/' :: rest) =>
    let lowered := scheme.map Char.toLower
    some (if lowered = "http".toList || lowered = "https".toList then lowered else scheme, rest)
  | _ => none

/-- The target with a scheme. -/
def absolute? (scheme rest : List Char) : Option Target := do
  let authority := rest.takeWhile fun c => !Authority.isEnd c
  let (path, query) ← pathAndQuery? (rest.dropWhile fun c => !Authority.isEnd c)
  if scheme.length ≤ 64 && authority ≠ [] && Authority.isValidOrEmpty authority then
    return ⟨some (String.ofList scheme), String.ofList authority,
      if path = [] then "/" else String.ofList path, query.map String.ofList⟩
  else none

/-- The target that a text is. -/
def ofText? (text : String) : Option Target :=
  if text.utf8ByteSize ≤ maxLength then
    match text.toList with
    | ['*'] => some ⟨none, "", "*", none⟩
    | '/' :: rest =>
      (pathAndQuery? ('/' :: rest)).map fun (path, query) =>
        ⟨none, "", String.ofList path, query.map String.ofList⟩
    | chars =>
      match scheme? chars with
      | some (scheme, rest) => absolute? scheme rest
      | none => if Authority.isValid text then some ⟨none, text, "", none⟩ else none
  else none

/-- The path and the query of a target. -/
def pathText (target : Target) : String :=
  target.path ++ (target.query.map ("?" ++ ·)).getD ""

/-- The text of a target. -/
def text (target : Target) : String :=
  (target.scheme.map (· ++ "://")).getD "" ++ target.authority ++ target.pathText

end Target
end Http
end RequestGate
