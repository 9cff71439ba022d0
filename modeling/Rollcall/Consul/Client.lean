import Rollcall.Http.Message
import Rollcall.Json.Reader
import Rollcall.Url.Query
import Rollcall.Url.Reader

/-!
# Clients of a Consul agent

A client resolves paths against the address of an agent, sends requests there, and reads the
replies. Every status that reports a failure becomes an error in the same way.
-/
namespace Rollcall.Consul

structure Client where
  base : Url
  deriving DecidableEq, Repr

namespace Client

open Http

/-- The address with a scheme in front and a slash at its end. -/
def completeAddress (address : String) : String :=
  let withScheme := if (address.splitOn "://").length > 1 then address else "http://" ++ address
  if withScheme.toList.getLast? = some '/' then withScheme else withScheme ++ "/"

/-- A client for an agent at an address such as `localhost:8500`. -/
def ofAddress (address : String) : Except Error Client :=
  let address := Text.trim address
  if address = "" then .error (.internal "Consul address must not be empty")
  else
    match Url.read (completeAddress address) with
    | .ok base => .ok ⟨base⟩
    | .error fault => .error (.invalidUrl s!"invalid Consul address '{address}'" fault)

/-- The URL of a path of the agent's interface. -/
def endpoint (c : Client) (path : String) : Except Error Url :=
  match c.base.join (Text.dropLeading '/' path) with
  | .ok url => .ok url
  | .error fault => .error (.invalidUrl s!"invalid Consul API path '{path}'" fault)

/-- A reply that reports success, or the failure that it reports. -/
def check (r : Reply) : Except Error Reply :=
  if r.status.isSuccess then .ok r else .error (r.status.toError r.text)

/-- The document in the body of a reply. All of the body has to be a document, also the fields that
nobody asks for, so a reply is refused here for what a reader that skips them lets pass: a number
beyond every double, nesting beyond the limit, half a pair of surrogates, or bytes that are no UTF-8
in a field of no interest. -/
def decode (r : Reply) : Except Error Document := do
  let bytes ← r.read
  match (String.fromUTF8? ⟨bytes.toArray⟩).bind Json.read with
  | some d => .ok d
  | none => .error .malformedJson

def request (c : Client) (method : Method) (path : String)
    (query : Option (List (String × String))) (body : Option Body) :
    Plan Exchange (Except Error Reply) :=
  match c.endpoint path with
  | .error e => .done (.error e)
  | .ok url =>
    let url := match query with
      | none => url
      | some pairs => url.withParameters pairs
    (send { method, url, body }).bind fun r => .done (r.bind check)

def fetch (c : Client) (method : Method) (path : String) (query : List (String × String))
    (body : Option Body) : Plan Exchange (Except Error Document) :=
  (c.request method path (some query) body).bind fun r => .done (r.bind decode)

def getJson (c : Client) (path : String) (query : List (String × String)) :
    Plan Exchange (Except Error Document) :=
  c.fetch .get path query none

def putJson (c : Client) (path : String) (query : List (String × String))
    (body : Option Document) : Plan Exchange (Except Error Document) :=
  c.fetch .put path query (body.map .json)

def putRaw (c : Client) (path : String) (query : List (String × String)) (body : List UInt8) :
    Plan Exchange (Except Error Document) :=
  c.fetch .put path query (some (.bytes body))

def put (c : Client) (path : String) (body : Option Document) :
    Plan Exchange (Except Error Unit) :=
  (c.request .put path none (body.map .json)).bind fun r => .done (r.map fun _ => ())

end Client

end Rollcall.Consul
