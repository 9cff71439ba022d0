import Rollcall.Document.Basic
import Rollcall.Http.Status
import Rollcall.Plan
import Rollcall.Text.Charset
import Rollcall.Url.Basic

/-!
# Requests and replies

A request is what a client sends; a delivery is what becomes of it. The connection may be refused or
closed without a word, the server may stay silent until the client gives up, or there is a reply,
whose body may break off or stall.
-/
namespace Rollcall.Http

inductive Method where
  | get
  | put
  deriving DecidableEq, Repr

def Method.name : Method → String
  | get => "GET"
  | put => "PUT"

inductive Body where
  | json (d : Document)
  | bytes (b : List UInt8)
  deriving Repr

structure Request where
  method : Method
  url : Url
  body : Option Body := none
  deriving Repr

/-- How the body of a reply ends. -/
inductive Ending where
  | whole
  | cutOff
  | stalled
  deriving DecidableEq, Repr

structure Reply where
  status : Status
  contentType : Option String := none
  body : List UInt8 := []
  ending : Ending := .whole
  deriving Repr

inductive Delivery where
  | refused
  | dropped
  | silent
  | replied (reply : Reply)
  deriving Repr

abbrev Exchange : Interface := ⟨Request, fun _ => Delivery⟩

/-- Something that carries requests to a server. -/
class Network (N : Type) where
  send : N → Request → Delivery × N

namespace Reply

def read (r : Reply) : Except Error (List UInt8) :=
  match r.ending with
  | .whole => .ok r.body
  | .cutOff => .error .transportFailure
  | .stalled => .error (.deadlineExceeded "error decoding response body")

/-- The body as text, empty if it cannot be read. -/
def text (r : Reply) : String :=
  match r.ending with
  | .whole => (Text.Charset.ofContentType (r.contentType.getD "")).decode r.body
  | _ => ""

end Reply

def sendingFailed (url : Url) : String := s!"error sending request for url ({url})"

/-- What a delivery means to the sender. -/
def Delivery.outcome (url : Url) : Delivery → Except Error Reply
  | refused => .error (.unavailable (sendingFailed url))
  | dropped => .error .transportFailure
  | silent => .error (.deadlineExceeded (sendingFailed url))
  | replied r => .ok r

def isWireHostChar (c : Char) : Bool :=
  c.isAlphanum || "!$&'()*+,-.:;=_~[]".toList.contains c

/-- Only web requests to a host can be sent at all. -/
def canSend (url : Url) : Bool :=
  (url.scheme = "http" || url.scheme = "https") &&
    match url.host with
    | some h => h ≠ "" && h.toList.all isWireHostChar
    | none => false

/-- Send a request and wait for the reply. A user and a password in the URL travel in a header, so
no message shows them. -/
def send (r : Request) : Plan Exchange (Except Error Reply) :=
  if canSend r.url then
    let r := { r with url := r.url.withoutUserinfo }
    .ask r fun (d : Delivery) => .done (d.outcome r.url)
  else .done (.error .transportFailure)

end Rollcall.Http
