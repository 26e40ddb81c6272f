import RequestGate.Json.Token
import RequestGate.Text.Utf8

/-!
# Reading JSON text

A value is read from its tokens one at a time.  The state holds the containers that are open, the
innermost first, and what may come next; a member whose name was given before replaces the earlier
value in its place.  `Json.read?` takes at most `nestingLimit` containers inside one another.
-/

namespace RequestGate
namespace Json

/-- How many containers may stand inside one another in a document. -/
def nestingLimit : Nat := 127

namespace Reader

/-- An open container. -/
inductive Frame where
  /-- An array with its items so far, the latest first. -/
  | array (done : List Json)
  /-- An object with its members so far. -/
  | object (done : Fields Json)
  /-- An object in which the value of a name is being read. -/
  | member (done : Fields Json) (name : String)

/-- What may come next. -/
inductive Expected where
  | value
  /-- A value, or the end of the array that has just been opened. -/
  | firstItem
  /-- A name, or the end of the object that has just been opened. -/
  | firstName
  | name
  | colon
  /-- A comma, or the end of the innermost container. -/
  | next

/-- A document part way through, or its value. -/
inductive State where
  | reading (expected : Expected) (open_ : List Frame)
  | finished (value : Json)

/-- Gives a complete value to the container it stands in. -/
def complete (value : Json) : List Frame → Option State
  | [] => some (.finished value)
  | .array done :: outer => some (.reading .next (.array (value :: done) :: outer))
  | .member done name :: outer => some (.reading .next (.object (done.insert name value) :: outer))
  | .object _ :: _ => none

/-- Opens a container unless too many are open. -/
def enter (limit : Nat) (expected : Expected) (frame : Frame) (open_ : List Frame) : Option State :=
  if open_.length < limit then some (.reading expected (frame :: open_)) else none

/-- Reads the first token of a value. -/
def start (limit : Nat) (open_ : List Frame) : Token → Option State
  | .openArray => enter limit .firstItem (.array []) open_
  | .openObject => enter limit .firstName (.object []) open_
  | .text s => complete (.string s) open_
  | .scalar value => complete value open_
  | _ => none

/-- Reads one token. -/
def step (limit : Nat) : State → Token → Option State
  | .finished _, _ => none
  | .reading .value open_, token => start limit open_ token
  | .reading .firstItem (.array _ :: outer), .closeArray => complete (.array []) outer
  | .reading .firstItem open_, token => start limit open_ token
  | .reading .firstName (.object _ :: outer), .closeObject => complete (.object []) outer
  | .reading .firstName (.object done :: outer), .text s =>
    some (.reading .colon (.member done s :: outer))
  | .reading .name (.object done :: outer), .text s =>
    some (.reading .colon (.member done s :: outer))
  | .reading .colon open_, .colon => some (.reading .value open_)
  | .reading .next (.array done :: outer), .comma => some (.reading .value (.array done :: outer))
  | .reading .next (.array done :: outer), .closeArray => complete (.array done.reverse) outer
  | .reading .next (.object done :: outer), .comma => some (.reading .name (.object done :: outer))
  | .reading .next (.object done :: outer), .closeObject => complete (.object done) outer
  | _, _ => none

end Reader

/-- The value that a text denotes, with at most `limit` containers inside one another. -/
def readWithin? (limit : Nat) (text : String) : Option Json := do
  let tokens ← Token.tokens? text.toList
  match ← tokens.foldlM (Reader.step limit) (.reading .value []) with
  | .finished value => some value
  | .reading .. => none

/-- The value of a JSON document. -/
def read? (text : String) : Option Json :=
  readWithin? nestingLimit text

/-- The value of a JSON document given as UTF-8 bytes. -/
def readBytes? (bytes : List UInt8) : Option Json :=
  (Utf8.decode? bytes).bind read?

end Json
end RequestGate
