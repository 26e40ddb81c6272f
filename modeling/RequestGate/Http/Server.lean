import RequestGate.Http.Admission
import RequestGate.Http.Router

/-!
# Servers

A server has a gate in front of a service.  The service answers the admitted requests: a router with
its controllers, or another server to which requests are forwarded.  When it never answers, the server
does once its time is over.

A request has an identifier when the gate sees it: one is made for every request that arrives without.
The identifier goes back with the reply.  How identifiers are made is left open.
-/

namespace RequestGate
namespace Http

/-- What answers admitted requests, or never does. -/
abbrev Service := Request → Option Response

/-- A gate in front of a service. -/
structure Server (σ : Type) where
  gate : Gate σ
  /-- The longest body that is read, in bytes. -/
  limit : Nat
  service : Service

/-- What a request is answered with, and whether the service gave the answer. -/
structure Reply where
  response : Response
  fromService : Bool

/-- What is sent back for a request. -/
structure Delivery where
  reply : Reply
  /-- The identifier of the request. -/
  id? : Option String

/-- What is sent back for a request that arrives, and what is counted, when requests with an identifier
have replies; `id` is made for a request without one. -/
def deliver (reply : Request → Reply × List Event) (id : String) (request : Request) :
    Delivery × List Event :=
  let request := request.withId id
  let answered := reply request
  (⟨answered.1, request.id?⟩, answered.2)

namespace Server

variable {σ : Type} [Validator σ]

/-- The response when the service does not answer in time. -/
def timedOut : Response :=
  .empty 408

/-- The answer of the service. -/
def serviceReply (service : Service) (request : Request) : Reply :=
  match service request with
  | some response => ⟨response, true⟩
  | none => ⟨timedOut, false⟩

/-- The reply to a request with its identifier, and what is counted. -/
def reply (server : Server σ) (request : Request) : Reply × List Event :=
  let (decision, events) := admission server.gate server.limit request
  let reply : Reply := match decision.refusal? with
    | some response => ⟨response, false⟩
    | none => serviceReply server.service request
  ({ reply with response := reply.response.sentFor request.method }, events)

/-- The replies to requests with their identifiers one after another, and what is counted for all of
them. -/
def replies (server : Server σ) (requests : List Request) : List Reply × List Event :=
  let answered := requests.map server.reply
  (answered.map Prod.fst, answered.flatMap Prod.snd)

/-- What is sent back for a request that arrives, and what is counted. -/
def serve (server : Server σ) (id : String) (request : Request) : Delivery × List Event :=
  deliver server.reply id request

/-- What is sent back for requests that arrive one after another, each with the identifier that is made
for it, and what is counted for all of them. -/
def serveAll (server : Server σ) (arrivals : List (String × Request)) :
    List Delivery × List Event :=
  let served := arrivals.map fun (id, request) => server.serve id request
  (served.map Prod.fst, served.flatMap Prod.snd)

end Server

namespace Router

/-- The reply of a router without a gate. -/
def reply (router : Router) (request : Request) : Reply :=
  let reply := Server.serviceReply router.answer request
  { reply with response := reply.response.sentFor request.method }

end Router
end Http
end RequestGate
