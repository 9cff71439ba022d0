import Rollcall.Resolver
import Rollcall.Retry

/-!
# The audit of services

An audit goes through a list of services and reports, for each, how many instances are live and one
of them that a resolution chose. Reads of the registry are retried. A service without live instances
is reported as such; any other failure ends the audit.
-/
namespace Rollcall

structure ServiceAudit where
  service : String
  live : Nat
  picked : Option String
  deriving DecidableEq, Repr

namespace Audit

def count (policy : RetryPolicy) (service : String) : Plan Work (Except Error Nat) :=
  (policy.run fun _ => Work.call (.addresses service)).bind
    fun (r : Except Error (List String)) => .done <|
      match r with
      | .ok live => .ok live.length
      | .error e => if e.kind = .notFound then .ok 0 else .error e

/-- One of the live instances, or nothing if they are gone by now. -/
def sample (service : String) : Plan Work (Except Error (Option String)) :=
  (Resolver.resolve service).bind fun r => .done <|
    match r with
    | .ok address => .ok (some address)
    | .error e => if e.kind = .unavailable then .ok none else .error e

def auditOne (policy : RetryPolicy) (service : String) : Plan Work (Except Error ServiceAudit) :=
  (count policy service).bind fun r =>
    match r with
    | .error e => .done (.error e)
    | .ok 0 => .done (.ok ⟨service, 0, none⟩)
    | .ok (n + 1) =>
      (sample service).bind fun r => .done <|
        match r with
        | .error e => .error e
        | .ok picked => .ok ⟨service, n + 1, picked⟩

def audit (policy : RetryPolicy) : List String → Plan Work (Except Error (List ServiceAudit))
  | [] => .done (.ok [])
  | service :: rest =>
    (auditOne policy service).bind fun r =>
      match r with
      | .error e => .done (.error e)
      | .ok one =>
        (audit policy rest).bind fun r => .done <|
          match r with
          | .error e => .error e
          | .ok more => .ok (one :: more)

/-- The audit as a job, whose report nobody reads. -/
def job (policy : RetryPolicy) (services : List String) : Job where
  name := "service-audit"
  plan := (audit policy services).bind fun r => .done (r.map fun _ => ())

end Audit

end Rollcall
