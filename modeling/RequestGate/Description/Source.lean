import RequestGate.Description.Reader
import RequestGate.Description.Reference
import RequestGate.Json.Reader
import RequestGate.Yaml.Value

/-!
# Sources of descriptions

A description is written in JSON or in YAML.  `parse` reads a text in one of the two, asks that the
document is an object, expands its references and reads the typed description.  `load` does the same
for the contents of a file, whose name tells the format.
-/

namespace RequestGate

/-- How a description is written. -/
inductive DocumentFormat where
  | json
  | yaml
  deriving DecidableEq

/-- Why there is no description. -/
inductive LoadError where
  /-- There is no file, or it is not UTF-8 text. -/
  | unreadable
  | notJson
  | notYaml
  /-- A mapping has a key that cannot name a member; the key is shown. -/
  | unsupportedKey (shown : String)
  | badReference (fault : Reference.Fault)
  | notMapping
  /-- A known field has a value of the wrong shape. -/
  | malformed
  deriving DecidableEq

namespace DocumentFormat

/-- The name of the file that a path leads to: its last part, unless that is the name of a parent.
Empty parts and the name of the same place do not count. -/
def fileName? (path : String) : Option (List Char) :=
  match ((Pieces.pieces '/' path.toList).filter fun part => part ≠ [] && part ≠ ['.']).getLast? with
  | some ['.', '.'] => none
  | name => name

/-- What follows the last point of a file name, unless that point starts the name. -/
def extension? (name : List Char) : Option (List Char) :=
  match name.reverse.span (· ≠ '.') with
  | (after, _ :: _ :: _) => some after.reverse
  | _ => none

/-- The format of a file: JSON when its name ends in `.json`, in any case, and YAML otherwise. -/
def ofPath (path : String) : DocumentFormat :=
  match (fileName? path).bind extension? with
  | some extension => if extension.map Case.lowerAscii = "json".toList then json else yaml
  | none => yaml

/-- The name of a format. -/
def name : DocumentFormat → String
  | json => "json"
  | yaml => "yaml"

end DocumentFormat

/-- An error in words, where the words do not come from a reader of a format. -/
def LoadError.message? : LoadError → Option String
  | unsupportedKey shown => some ("unsupported mapping key: " ++ shown)
  | badReference (.remote text) => some ("remote reference not supported: " ++ text)
  | badReference (.unresolved text) => some ("unresolved reference: " ++ text)
  | notMapping => some "malformed description: document root must be a mapping"
  | unreadable | notJson | notYaml | malformed => none

namespace Description

/-- The document that a text denotes. -/
def document (format : DocumentFormat) (text : String) : Except LoadError Json :=
  match format with
  | .json =>
    match Json.read? text with
    | some document => .ok document
    | none => .error .notJson
  | .yaml =>
    match Yaml.Value.read? text with
    | some value => value.toJson.mapError .unsupportedKey
    | none => .error .notYaml

/-- The description that a document holds. -/
def ofDocument (document : Json) : Except LoadError Description :=
  if document.isObject then
    match Reference.expand document with
    | .error fault => .error (.badReference fault)
    | .ok expanded =>
      match ofJson? expanded with
      | some description => .ok description
      | none => .error .malformed
  else .error .notMapping

/-- The description that a text holds. -/
def parse (format : DocumentFormat) (text : String) : Except LoadError Description :=
  (document format text).bind ofDocument

/-- The description in a file, given what the file holds if it can be read. -/
def load (path : String) (contents : Option (List UInt8)) : Except LoadError Description :=
  match contents.bind Utf8.decode? with
  | some text => parse (.ofPath path) text
  | none => .error .unreadable

end Description
end RequestGate
