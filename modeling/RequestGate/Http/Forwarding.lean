import RequestGate.Http.Server

/-!
# Forwarding

A forwarding server passes admitted requests on to a service at an address.  The address has to be an
authority.  When the service cannot be reached, the answer says so.
-/

namespace RequestGate
namespace Http
namespace Forwarding

/-- An address that is no authority. -/
structure AddressError where
  address : String
  deriving DecidableEq

/-- An address that requests can be forwarded to. -/
def checkAddress (address : String) : Except AddressError Unit :=
  if Authority.isValid address then .ok () else .error ⟨address⟩

/-- The response when the service cannot be reached. -/
def unreachable : Response :=
  .ofText 502 "Upstream request failed"

/-- Whether a byte is a blank around the value of a header field. -/
def isBlankByte (b : UInt8) : Bool :=
  b = 0x20 || b = 0x09

/-- A request as it arrives over a connection: no blanks stand around the values of its header
fields. -/
def received (request : Request) : Request :=
  { request with headers := request.headers.map fun (name, value) =>
    (name, ((value.dropWhile isBlankByte).reverse.dropWhile isBlankByte).reverse) }

variable {σ : Type} [Validator σ]

/-- The reply to a request with its identifier that came over a connection, where `reached?` is the
service if it can be reached. -/
def reply (gate : Gate σ) (limit : Nat) (reached? : Option Service) (request : Request) :
    Reply × List Event :=
  match reached? with
  | some service => Server.reply ⟨gate, limit, service⟩ (received request)
  | none =>
    let (reply, events) := Server.reply ⟨gate, limit, fun _ => some unreachable⟩ (received request)
    ({ reply with fromService := false }, events)

/-- What is sent back for a request that arrives over a connection, and what is counted. -/
def serve (gate : Gate σ) (limit : Nat) (reached? : Option Service) (id : String)
    (request : Request) : Delivery × List Event :=
  deliver (reply gate limit reached?) id request

end Forwarding
end Http
end RequestGate
