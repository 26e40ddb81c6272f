import RequestGate.Fields
import RequestGate.Text.Case
import RequestGate.Text.Percent
import RequestGate.Text.Pieces

/-!
# Route templates

A route template is a path whose segments are literals or parameters; a parameter is a colon and a
name.  A template matches the paths with as many segments that repeat its literals and have a
nonempty segment for every parameter.  One trailing slash of a path is ignored.

Parameters are captured from the path as it was sent and percent-decoded, while literals are compared
with the path in lower case.
-/

namespace RequestGate
namespace Route

/-- A part of a template between slashes. -/
inductive Segment where
  | literal (text : String)
  | parameter (name : String)
  deriving DecidableEq

/-- Captured parameters in the order of the template. -/
abbrev Captures := Fields String

/-- The route form of a path template: `{name}` becomes `:name`. -/
def ofBraces (template : String) : String :=
  String.ofList ((template.toList.map fun c => if c = '\x7b' then ':' else c).filter (· ≠ '\x7d'))

/-- A list without its first element when that is the given one. -/
def dropFirst (c : Char) : List Char → List Char
  | [] => []
  | d :: rest => if d = c then rest else d :: rest

/-- A list without its last element when that is the given one. -/
def dropLast (c : Char) (text : List Char) : List Char :=
  (dropFirst c text.reverse).reverse

/-- The segments of a path, without its leading slash and one trailing slash.  The root path has a
single empty segment. -/
def segments (path : String) : List String :=
  (Pieces.pieces '/' (dropLast '/' (dropFirst '/' path.toList))).map String.ofList

/-- What a segment of a template stands for: a colon before a nonempty name is a parameter. -/
def Segment.ofText (text : String) : Segment :=
  match text.toList with
  | ':' :: c :: rest => .parameter (String.ofList (c :: rest))
  | _ => .literal text

/-- The segments of a template. -/
def templateSegments (template : String) : List Segment :=
  (segments template).map Segment.ofText

/-- Whether a literal has a character in upper case; no path in lower case matches it. -/
def Segment.hasUpper : Segment → Bool
  | literal text => text.toList.any Case.isUpper
  | parameter _ => false

/-- Whether a template has a literal with a character in upper case. -/
def hasUpperLiteral (template : String) : Bool :=
  (templateSegments template).any Segment.hasUpper

/-- Whether a segment of a path fits a segment of a template. -/
def Segment.fits : Segment → String → Bool
  | literal text, part => text = part
  | parameter _, part => part ≠ ""

/-- Whether the segments of a path fit those of a template one by one. -/
def fits : List Segment → List String → Bool
  | [], [] => true
  | segment :: segments, part :: parts => segment.fits part && fits segments parts
  | _, _ => false

/-- Whether a template has the shape of a path. -/
def isMatch (template path : String) : Bool :=
  fits (templateSegments template) (segments path)

/-- The named parts of a path, percent-decoded. -/
def named : List Segment → List String → List (String × String)
  | .parameter name :: segments, part :: parts =>
    (name, Percent.decodeText part) :: named segments parts
  | .literal _ :: segments, _ :: parts => named segments parts
  | _, _ => []

/-- The parameters of a template that fits the path whose segments in lower case are `lowered` and
as sent are `sent`. -/
def capture? (template : String) (lowered sent : List String) : Option Captures :=
  if fits (templateSegments template) lowered && lowered.length = sent.length then
    some (Fields.ofList (named (templateSegments template) sent))
  else none

end Route
end RequestGate
