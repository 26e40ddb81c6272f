import RequestGate.Http.Server
import RequestGate.Text.Debug

/-!
# Echoes

Controllers and a service that answer with the request they are given.  They stand in for real ones
when a gate is tried out.
-/

namespace RequestGate
namespace Http
namespace Echo

/-- The body of a request in brackets. -/
def bracketed (request : Request) : String :=
  "[" ++ Utf8.decodeLossy request.body ++ "]"

/-- A controller that answers with its name and the request. -/
def controller (name : String) (status : Nat) : Controller := fun request =>
  some (.ofText status (name ++ ": " ++ request.method ++ " " ++ request.target.text ++ " " ++
    bracketed request))

/-- A controller that never answers. -/
def silent : Controller := fun _ =>
  none

/-- The header field that an echoing service shows. -/
def shownName : String := "x-extra"

/-- A service that accepts every request and answers with it. -/
def service : Service := fun request =>
  let shown := match Headers.text? shownName request.headers with
    | some text => "Some(" ++ Inspect.quote text ++ ")"
    | none => "None"
  some (.ofText 202 (request.method ++ " " ++ request.target.pathText ++ " HTTP/1.1 " ++ shownName ++
    "=" ++ shown ++ " " ++ bracketed request))

end Echo
end Http
end RequestGate
