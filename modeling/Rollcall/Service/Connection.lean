import Rollcall.Http.Message
import Rollcall.Json.Reader
import Rollcall.Text.Blank
import Rollcall.Text.Pem
import Rollcall.Time
import Rollcall.Url.Query
import Rollcall.Url.Reader

/-!
# Connections to a service

A connection is a channel to one address. Opening it sends nothing; the credentials decide whether
requests travel in the open or under mutual TLS.
-/
namespace Rollcall

structure Credentials where
  /-- Requests travel under mutual TLS. -/
  isSecure : Bool
  requestTimeout : Nat
  deriving DecidableEq, Repr

namespace Credentials

def defaultTimeout : Nat := Duration.ofSecs 10

def insecure : Credentials := ⟨false, defaultTimeout⟩

def mutualTls (authority certificate key : String) : Except Error Credentials :=
  if ¬ Text.Pem.hasCertificate authority then
    .error (.internal "failed to parse CA certificate")
  else if ¬ (Text.Pem.isPrivateKey key ∧ Text.Pem.hasCertificate certificate) then
    .error (.internal "failed to load client key pair")
  else .ok ⟨true, defaultTimeout⟩

def withTimeout (c : Credentials) (timeout : Nat) : Credentials :=
  { c with requestTimeout := timeout }

def scheme (c : Credentials) : String := if c.isSecure then "https" else "http"

/-- The credentials as shown to a person, without any secret. -/
def describe (c : Credentials) : String :=
  "TransportCredentials \x7b mutual_tls: " ++ (if c.isSecure then "true" else "false") ++
    ", request_timeout: " ++ Duration.text c.requestTimeout ++ " \x7d"

end Credentials

structure Connection where
  target : String
  base : String
  deriving DecidableEq, Repr

namespace Connection

open Http

def ofTarget (target : String) (c : Credentials) : Connection :=
  { target, base := c.scheme ++ "://" ++ target }

/-- The address of a path, as it is before it is read as a URL. -/
def url (c : Connection) (path : String) : String :=
  c.base ++ "/" ++ Text.dropLeading '/' path

/-- A reply that reports success, or the failure that it reports, explained by the path that was
asked for and what the server has to say. -/
def check (url : Url) (r : Reply) : Except Error Reply :=
  if r.status.isSuccess then .ok r
  else
    let said := r.text
    let path := url.path.text
    .error (r.status.toError (if Text.isBlankText said then path else path ++ ": " ++ said))

def decode (r : Reply) : Except Error Document := do
  let bytes ← r.read
  match (String.fromUTF8? ⟨bytes.toArray⟩).bind Json.read with
  | some d => .ok d
  | none => .error .transportFailure

def request (c : Connection) (method : Method) (path : String)
    (query : Option (List (String × String))) (body : Option Body) :
    Plan Exchange (Except Error Reply) :=
  match Url.read (c.url path) with
  | .error _ => .done (.error .transportFailure)
  | .ok url =>
    let url := match query with
      | none => url
      | some pairs => url.withParameters pairs
    (send { method, url, body }).bind fun r => .done (r.bind (check url))

/-- Read a document; reading twice does no harm. -/
def getJson (c : Connection) (path : String) (query : List (String × String)) :
    Plan Exchange (Except Error Document) :=
  (c.request .get path (some query) none).bind fun r => .done (r.bind decode)

def putJson (c : Connection) (path : String) (body : Document) :
    Plan Exchange (Except Error Unit) :=
  (c.request .put path none (some (.json body))).bind fun r => .done (r.map fun _ => ())

end Connection

end Rollcall
