import RequestGate.Http.Message
import RequestGate.Json.Printer
import RequestGate.Json.Reader
import RequestGate.Text.Blank
import RequestGate.Validation.Coercion

/-!
# Bags of a request

The named values of a query, of the header fields and of a body.  A name that comes more than once in
urlencoded data has the array of its values; header fields of one name have their values joined by
commas.  A body is read when its content type is JSON or urlencoded data; a body of JSON has to be an
object.
-/

namespace RequestGate
namespace Http

/-- Why the body of a request cannot be used. -/
inductive BodyFault where
  /-- The body is longer than the limit, in bytes. -/
  | tooLarge (limit : Nat)
  | malformedJson
  | notObject
  deriving DecidableEq

namespace BodyFault

/-- The status of the response to a fault. -/
def status : BodyFault → Nat
  | tooLarge _ => 413
  | malformedJson | notObject => 400

/-- The code of a fault. -/
def code : BodyFault → String
  | tooLarge _ => "payload_too_large"
  | malformedJson | notObject => "bad_request"

/-- A fault in words.  What a reader of JSON says about a malformed body is left out: it follows
`malformed JSON body: `. -/
def message : BodyFault → String
  | tooLarge limit => "request body exceeds " ++ toString limit ++ " bytes"
  | malformedJson => "malformed JSON body: "
  | notObject => "request body must be a JSON object"

/-- A fault as JSON. -/
def toJson (fault : BodyFault) : Json :=
  .object [("code", .string fault.code), ("message", .string fault.message)]

end BodyFault

namespace Bag

/-- A value with another one of the same name: the two of them in an array, or the array with one
more. -/
def joinValue (value : String) : Json → Json
  | .array items => .array (items ++ [.string value])
  | first => .array [first, .string value]

/-- The bag with one more pair. -/
def withPair (bag : Bag) (pair : String × String) : Bag :=
  match Fields.get? pair.1 bag with
  | some _ => Fields.update pair.1 (joinValue pair.2) bag
  | none => bag ++ [(pair.1, .string pair.2)]

/-- The bag of pairs. -/
def ofPairs (pairs : List (String × String)) : Bag :=
  pairs.foldl withPair []

/-- The bag of urlencoded data. -/
def ofUrlencoded (bytes : List UInt8) : Bag :=
  ofPairs (Urlencoded.pairs bytes)

/-- The bag of a query. -/
def ofQuery : Option String → Bag
  | some query => ofUrlencoded (Utf8.encode query)
  | none => []

/-- The bag of header fields: every name once, in the order of first appearance. -/
def ofHeaders (headers : Headers) : Bag :=
  (headers.map Prod.fst).eraseDups.map fun name =>
    (name, .string (String.intercalate ", " ((Headers.values name headers).map Utf8.decodeLossy)))

/-- The media type that a content type names, in lower case. -/
def mediaType (contentType : String) : String :=
  Case.lowerAsciiText (Blank.trim (String.ofList (contentType.toList.takeWhile (· ≠ ';'))))

/-- Whether a media type is JSON. -/
def isJson (mediaType : String) : Bool :=
  mediaType = "application/json" || mediaType.endsWith "+json"

/-- The bag of a body of JSON. -/
def ofJson (bytes : List UInt8) : Except BodyFault Bag :=
  match Json.readBytes? bytes with
  | none => .error .malformedJson
  | some (.object members) => .ok members
  | some _ => .error .notObject

/-- The bag of a body; it is empty when the body is, and when its content is of another type. -/
def ofBody (contentType : Option String) (bytes : List UInt8) : Except BodyFault Bag :=
  let kind := (contentType.map mediaType).getD ""
  if bytes = [] then .ok []
  else if isJson kind then ofJson bytes
  else if kind = "application/x-www-form-urlencoded" then .ok (ofUrlencoded bytes)
  else .ok []

end Bag
end Http
end RequestGate
