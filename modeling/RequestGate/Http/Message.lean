import RequestGate.Http.Target
import RequestGate.Text.Urlencoded

/-!
# Requests and responses

A request has a method, a target, header fields in the order in which they were sent, with their
names in lower case, and a body of bytes.  Methods and the names of header fields are tokens; the
values of header fields are bytes that are not control characters, apart from tabs.
-/

namespace RequestGate
namespace Http

/-- Header fields in the order in which they were sent. -/
abbrev Headers := List (String × List UInt8)

/-- A request. -/
structure Request where
  method : String
  target : Target
  headers : Headers
  body : List UInt8

/-- A response. -/
structure Response where
  status : Nat
  contentType : Option String
  /-- The methods that the resource allows, when the method of the request is not one of them. -/
  allow : Option String
  body : String
  deriving DecidableEq

/-- Characters of a token. -/
def isTokenChar (c : Char) : Bool :=
  c.isAlphanum || "!#$%&'*+-.^_`|~".toList.contains c

/-- Whether a text is a token: nonempty, with token characters only. -/
def isToken (text : String) : Bool :=
  text ≠ "" && text.toList.all isTokenChar

namespace Headers

/-- Whether a byte may stand in the value of a header field. -/
def isValueByte (b : UInt8) : Bool :=
  (0x20 ≤ b && b ≠ 0x7F) || b = 0x09

/-- Whether a byte is a tab or a printed ASCII character. -/
def isPrintedByte (b : UInt8) : Bool :=
  (0x20 ≤ b && b < 0x7F) || b = 0x09

/-- The longest name of a header field. -/
def maxNameLength : Nat := 65535

/-- A header field of these bytes, its name in lower case. -/
def field? (name value : List UInt8) : Option (String × List UInt8) := do
  let text ← Utf8.decode? name
  if isToken text && text.length ≤ maxNameLength && value.all isValueByte then
    return (Case.lowerAsciiText text, value)
  else none

/-- The values of a header field, in order. -/
def values (name : String) (headers : Headers) : List (List UInt8) :=
  (headers.filter (·.1 = name)).map Prod.snd

/-- The first value of a header field. -/
def first? (name : String) (headers : Headers) : Option (List UInt8) :=
  (values name headers).head?

/-- The first value of a header field when all of it is printed ASCII text. -/
def text? (name : String) (headers : Headers) : Option String :=
  (first? name headers).bind fun value =>
    if value.all isPrintedByte then some (Utf8.decodeLossy value) else none

/-- The header field that carries the identifier of a request. -/
def requestIdName : String := "x-request-id"

end Headers

namespace Request

/-- The request of these parts, when its method and its target are well-formed. -/
def ofParts? (method target : String) (headers : Headers) (body : List UInt8) : Option Request := do
  let target ← Target.ofText? target
  if isToken method then return ⟨method, target, headers, body⟩ else none

/-- The identifier that a request carries. -/
def id? (request : Request) : Option String :=
  (Headers.first? Headers.requestIdName request.headers).map Utf8.decodeLossy

/-- The request with an identifier: the one that it carries, or else the one that is made for it. -/
def withId (id : String) (request : Request) : Request :=
  if request.id?.isSome then request
  else { request with headers := request.headers ++ [(Headers.requestIdName, Utf8.encode id)] }

end Request

namespace Response

/-- A response without content. -/
def empty (status : Nat) : Response :=
  ⟨status, none, none, ""⟩

/-- A response of text. -/
def ofText (status : Nat) (body : String) : Response :=
  ⟨status, some "text/plain; charset=utf-8", none, body⟩

/-- A response of JSON text. -/
def ofJsonText (status : Nat) (body : String) : Response :=
  ⟨status, some "application/json", none, body⟩

/-- What is sent for a request with this method: a response to `HEAD` has no body. -/
def sentFor (method : String) (response : Response) : Response :=
  if method = "HEAD" then { response with body := "" } else response

end Response
end Http
end RequestGate
