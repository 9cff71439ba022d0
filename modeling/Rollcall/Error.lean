import Rollcall.Instance
import Rollcall.Text.Numeral
import Rollcall.Url.Fault

/-!
# Errors

Every failure has one of six kinds, and the kind alone decides whether trying again may help. An
internal error may carry the error that led to it; the chain of such causes is listed outermost
first.
-/
namespace Rollcall

inductive ErrorKind where
  | notRegistered
  | notFound
  | unavailable
  | resourceExhausted
  | deadlineExceeded
  | internal
  deriving DecidableEq, Repr

namespace ErrorKind

def all : List ErrorKind :=
  [.notRegistered, .notFound, .unavailable, .resourceExhausted, .deadlineExceeded, .internal]

def name : ErrorKind → String
  | .notRegistered => "not_registered"
  | .notFound => "not_found"
  | .unavailable => "unavailable"
  | .resourceExhausted => "resource_exhausted"
  | .deadlineExceeded => "deadline_exceeded"
  | .internal => "internal"

/-- A failure that a later attempt may not meet. -/
def isRetryable : ErrorKind → Bool
  | .unavailable | .resourceExhausted | .deadlineExceeded => true
  | .notRegistered | .notFound | .internal => false

theorem mem_all (k : ErrorKind) : k ∈ all := by cases k <;> decide

end ErrorKind

inductive Error where
  | notRegistered (id : InstanceId) (service : String)
  | notFound (message : String)
  | unavailable (message : String)
  | resourceExhausted (message : String)
  | deadlineExceeded (message : String)
  | internal (message : String)
  /-- Internal, brought about by another error. -/
  | caused (message : String) (cause : Error)
  /-- An address whose port is no numeral of sixteen bits. -/
  | invalidPort (address : String) (fault : Text.NumeralFault)
  /-- Internal, because a text is no URL. -/
  | invalidUrl (message : String) (fault : UrlFault)
  deriving DecidableEq, Repr

namespace Error

def kind : Error → ErrorKind
  | notRegistered .. => .notRegistered
  | notFound _ => .notFound
  | unavailable _ => .unavailable
  | resourceExhausted _ => .resourceExhausted
  | deadlineExceeded _ => .deadlineExceeded
  | internal _ | caused .. | invalidPort .. | invalidUrl .. => .internal

def isRetryable (e : Error) : Bool := e.kind.isRetryable

def message : Error → String
  | notRegistered id service => s!"instance {id} of service {service} is not registered"
  | notFound m => s!"not found: {m}"
  | unavailable m => s!"unavailable: {m}"
  | resourceExhausted m => s!"resource exhausted: {m}"
  | deadlineExceeded m => s!"deadline exceeded: {m}"
  | internal m => m
  | caused m _ => m
  | invalidPort a _ => s!"invalid port in '{a}'"
  | invalidUrl m _ => m

/-- The messages of the causes, outermost first. -/
def causes : Error → List String
  | caused _ e => e.message :: e.causes
  | invalidPort _ f => [f.message]
  | invalidUrl _ f => [f.message]
  | _ => []

/-- An error of a given kind with a plain message; `id` and `service` serve the one kind that is
about an instance. -/
def ofKind (k : ErrorKind) (message : String) (id : InstanceId) (service : String) : Error :=
  match k with
  | .notRegistered => notRegistered id service
  | .notFound => notFound message
  | .unavailable => unavailable message
  | .resourceExhausted => resourceExhausted message
  | .deadlineExceeded => deadlineExceeded message
  | .internal => internal message

@[simp] theorem kind_ofKind (k : ErrorKind) (m : String) (id : InstanceId) (s : String) :
    (ofKind k m id s).kind = k := by
  cases k <;> rfl

def noLiveInstances (service : String) : String := s!"no live instances of service {service}"

def malformedAddress (address : String) : Error :=
  internal s!"address must be in the form <host>:<port> (e.g. localhost:8500), got '{address}'"

def malformedJson : Error := internal "malformed JSON payload"

def transportFailure : Error := internal "HTTP transport failure"

end Error

end Rollcall
