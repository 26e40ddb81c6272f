import RequestGate.Compiled
import RequestGate.Http.Message
import RequestGate.Http.PathPattern

/-!
# Routers

Bindings and a registry of controllers make a router.  Bindings are taken one after another: each
names a registered controller, and bindings whose routes have the same shape have the same template.
The bindings of a template share one resource, whose methods are listed as they were bound.

A resource that has a `GET` controller answers `HEAD` with it unless `HEAD` is bound itself.
-/

namespace RequestGate
namespace Http

/-- A controller answers a request, or it never does. -/
abbrev Controller := Request → Option Response

/-- Controllers by name. -/
abbrev Registry := Fields Controller

/-- The resource of a template. -/
structure Resource where
  template : String
  /-- The controllers by method, in the order in which they were bound. -/
  handlers : List (Verb × Controller)

/-- A router: resources with the patterns of their templates. -/
structure Router where
  resources : List (PathPattern × Resource)

/-- Why bindings make no router. -/
inductive BindError where
  | unknownController (verb : Verb) (template controller : String)
  /-- Two templates have routes of the same shape. -/
  | conflict (first second : String)
  /-- A template has two controllers for one method. -/
  | boundTwice (verb : Verb) (template : String)
  /-- A template has no pattern, or one that clashes with another. -/
  | refused (template : String)
  deriving DecidableEq

/-- An error in words, for those that are reported. -/
def BindError.message? : BindError → Option String
  | unknownController verb template controller =>
    some (verb.upperName ++ " " ++ template ++ ": no controller registered as '" ++ controller ++ "'")
  | conflict first second =>
    some ("templates '" ++ first ++ "' and '" ++ second ++ "' describe the same route")
  | boundTwice _ _ | refused _ => none

namespace Resource

/-- The controller for a method. -/
def handler? (verb : Verb) (resource : Resource) : Option Controller :=
  (resource.handlers.find? (·.1 = verb)).map Prod.snd

/-- The controller that answers requests with a method, which is written in upper case. -/
def answering? (resource : Resource) (method : String) : Option Controller := do
  let verb ← Verb.all.find? (·.upperName = method)
  if verb = .head then (resource.handler? .head).or (resource.handler? .get)
  else resource.handler? verb

/-- The names of the methods that a binding allows. -/
def allowedBy : Verb → List String
  | .get => ["GET", "HEAD"]
  | verb => [verb.upperName]

/-- The allowed methods, in the order in which they were bound. -/
def allow (resource : Resource) : String :=
  String.intercalate "," (resource.handlers.flatMap fun (verb, _) => allowedBy verb).eraseDups

end Resource

namespace Router

/-- The router without resources. -/
def empty : Router :=
  ⟨[]⟩

/-- The shape of a route: its parameters without their names. -/
def shape (route : String) : String :=
  String.ofList (Pieces.join '/' ((Pieces.pieces '/' route.toList).map fun segment =>
    if segment.head? = some ':' then [':'] else segment))

/-- The resources by shape with one more binding. -/
def withBinding (registry : Registry) (resources : Fields Resource) (binding : Binding) :
    Except BindError (Fields Resource) :=
  match Fields.get? binding.controller registry with
  | none => .error (.unknownController binding.verb binding.template binding.controller)
  | some controller =>
    let key := shape binding.route
    match Fields.get? key resources with
    | none => .ok (resources.insert key ⟨binding.template, [(binding.verb, controller)]⟩)
    | some resource =>
      if resource.template ≠ binding.template then
        .error (.conflict resource.template binding.template)
      else if (resource.handler? binding.verb).isSome then
        .error (.boundTwice binding.verb binding.template)
      else
        .ok ((resources.erase key).insert key
          { resource with handlers := resource.handlers ++ [(binding.verb, controller)] })

/-- The router with one more resource. -/
def withResource (router : Router) (resource : Resource) : Except BindError Router :=
  match PathPattern.ofTemplate? resource.template with
  | none => .error (.refused resource.template)
  | some pattern =>
    if router.resources.any fun entry => entry.1.clashes pattern then
      .error (.refused resource.template)
    else .ok ⟨router.resources ++ [(pattern, resource)]⟩

/-- The router of bindings. -/
def bind (registry : Registry) (bindings : List Binding) : Except BindError Router := do
  let resources ← bindings.foldlM (withBinding registry) []
  (resources.map Prod.snd).foldlM withResource empty

/-- The better of two resources for a path. -/
def better (a b : PathPattern × Resource) : PathPattern × Resource :=
  if b.1.isPreferred a.1 then b else a

/-- The resource of a path. -/
def resource? (router : Router) (path : String) : Option Resource :=
  match router.resources.filter fun entry => entry.1.isMatch path.toList with
  | [] => none
  | entry :: rest => some (rest.foldl better entry).2

/-- What a request leads to. -/
inductive Destination where
  | notFound
  | methodNotAllowed (allow : String)
  | controller (controller : Controller)

/-- What a request with a method and a path leads to. -/
def destination (router : Router) (method path : String) : Destination :=
  match router.resource? path with
  | none => .notFound
  | some resource =>
    match resource.answering? method with
    | some controller => .controller controller
    | none => .methodNotAllowed resource.allow

/-- The answer to a request; none when the controller never answers. -/
def answer (router : Router) (request : Request) : Option Response :=
  match router.destination request.method request.target.path with
  | .notFound => some (.empty 404)
  | .methodNotAllowed allow => some { Response.empty 405 with allow := some allow }
  | .controller controller => controller request

end Router
end Http
end RequestGate
