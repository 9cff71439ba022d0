import Rollcall.Resolver
import Rollcall.Retry
import Rollcall.Service.Connection

/-!
# Clients of a service

A client resolves its service to one instance and talks to that instance. Reads are retried, all
attempts going to the same instance; writes are sent once.
-/
namespace Rollcall

inductive ServiceClient.Step where
  | work (s : Work.Step)
  | send (r : Http.Request)

namespace ServiceClient

abbrev Answer : Step → Type
  | .work s => Work.Answer s
  | .send _ => Http.Delivery

abbrev Talk : Interface := ⟨Step, Answer⟩

def ofWork {α : Type} (p : Plan Work α) : Plan Talk α :=
  p.interpret fun s => .ask (.work s) .done

def ofExchange {α : Type} (p : Plan Http.Exchange α) : Plan Talk α :=
  p.interpret fun r => .ask (.send r) .done

end ServiceClient

structure ServiceClient where
  service : String
  credentials : Credentials
  retry : RetryPolicy
  deriving DecidableEq, Repr

namespace ServiceClient

/-- Resolve the service and open a connection to the instance that was chosen. -/
def connect (c : ServiceClient) : Plan Talk (Except Error Connection) :=
  (ofWork (Resolver.resolve c.service)).bind fun r =>
    .done (r.map fun target => .ofTarget target c.credentials)

/-- What is read is a document; how a caller makes a value of a type of its own from it is left to the
caller. -/
def get (c : ServiceClient) (path : String) (query : List (String × String)) :
    Plan Talk (Except Error Document) :=
  c.connect.bind fun r =>
    match r with
    | .error e => .done (.error e)
    | .ok connection => c.retry.run fun _ => ofExchange (connection.getJson path query)

def put (c : ServiceClient) (path : String) (body : Document) : Plan Talk (Except Error Unit) :=
  c.connect.bind fun r =>
    match r with
    | .error e => .done (.error e)
    | .ok connection => ofExchange (connection.putJson path body)

end ServiceClient

end Rollcall
