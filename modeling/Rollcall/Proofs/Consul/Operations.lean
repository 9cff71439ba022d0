import Rollcall.Consul.Locks
import Rollcall.Consul.Registry
import Rollcall.Proofs.Consul.Client

/-!
# The requests of an operation

Each operation on an agent is one request, written out here with the paths, and its result is read
from the delivery of that request.
-/

namespace Rollcall.Consul

open Http Client

variable {c : Client}

def registrationPath : String := "v1/agent/service/register"

def checkPath (id : InstanceId) : String := "v1/agent/check/pass/" ++ id.text

def removalPath (id : InstanceId) : String := "v1/agent/service/deregister/" ++ id.text

def healthPath (service : String) : String := "v1/health/service/" ++ service

def sessionPath : String := "v1/session/create"

theorem isVersioned_registrationPath : IsVersioned registrationPath :=
  ⟨"agent/service/register".toList, rfl⟩

theorem isVersioned_checkPath (id : InstanceId) : IsVersioned (checkPath id) :=
  IsVersioned.append ⟨"agent/check/pass/".toList, rfl⟩ _

theorem isVersioned_removalPath (id : InstanceId) : IsVersioned (removalPath id) :=
  IsVersioned.append ⟨"agent/service/deregister/".toList, rfl⟩ _

theorem isVersioned_healthPath (service : String) : IsVersioned (healthPath service) :=
  IsVersioned.append ⟨"health/service/".toList, rfl⟩ _

theorem isVersioned_sessionPath : IsVersioned sessionPath := ⟨"session/create".toList, rfl⟩

theorem isVersioned_keyPath (key : String) : IsVersioned (keyPath key) :=
  IsVersioned.append ⟨"kv/".toList, rfl⟩ _

def registrationMessage (c : Client) (s : RegistrySettings) (id : InstanceId) (service : String)
    (a : HostPort) : Request :=
  c.message .put registrationPath none (some (.json (registration s id service a)))

theorem register_eq (h : c.Sends) {s : RegistrySettings} {id : InstanceId}
    {service address : String} {a : HostPort} (ha : HostPort.read address = .ok a) :
    register c s id service address = .ask (registrationMessage c s id service a)
      fun (d : Delivery) => .done (((received (registrationMessage c s id service a).url d).map
        fun _ => ()).mapError (registrationError id)) := by
  unfold register
  rw [ha]
  change (c.put registrationPath _).bind _ = _
  rw [put_eq h isVersioned_registrationPath]
  unfold registrationMessage
  simp only [Option.map_some, Plan.bind]
  refine congrArg (Plan.ask _) (funext fun d => ?_)
  cases received (c.message .put registrationPath none
    (some (.json (registration s id service a)))).url d with
  | ok r => rfl
  | error e => rfl

theorem register_asksOnly (c : Client) (s : RegistrySettings) (id : InstanceId)
    (service address : String) :
    (register c s id service address).AsksOnly fun (r : Request) =>
      ∃ a, HostPort.read address = .ok a ∧ r.body = some (.json (registration s id service a)) := by
  unfold register
  cases ha : HostPort.read address with
  | error e => exact .done _ _
  | ok a =>
    apply Plan.AsksOnly.map_done
    apply (c.put_asksOnly _ _).mono
    intro r hr
    exact ⟨a, rfl, hr⟩

theorem report_asksOnce (h : c.Sends) (id : InstanceId) (service : String) :
    (report c id service).AsksOnce (c.message .put (checkPath id) none none) := by
  have hpath : s!"v1/agent/check/pass/{id}" = checkPath id := rfl
  unfold report
  rw [hpath, put_eq h (isVersioned_checkPath id)]
  exact Plan.AsksOnce.bind ⟨_, rfl⟩ _

theorem deregister_asksOnce (h : c.Sends) (id : InstanceId) :
    (deregister c id).AsksOnce (c.message .put (removalPath id) none none) := by
  have hpath : s!"v1/agent/service/deregister/{id}" = removalPath id := rfl
  unfold deregister
  rw [hpath, put_eq h (isVersioned_removalPath id)]
  exact Plan.AsksOnce.bind ⟨_, rfl⟩ _

def healthMessage (c : Client) (service : String) : Request :=
  c.message .get (healthPath service) (some [("passing", "true")]) none

def readAddresses (service : String) : Except Error Document → Except Error (List String)
  | .error e => .error e
  | .ok d =>
    match HealthEntry.listOfDocument d with
    | none => .error .malformedJson
    | some entries => addressesOf service entries

theorem addresses_eq (h : c.Sends) (service : String) :
    addresses c service = .ask (healthMessage c service) fun (d : Delivery) =>
      .done (readAddresses service ((received (healthMessage c service).url d).bind decode)) := by
  have hpath : s!"v1/health/service/{service}" = healthPath service := rfl
  unfold addresses getJson
  rw [hpath, fetch_eq h (isVersioned_healthPath service)]
  rfl

def sessionMessage (c : Client) (name : String) (ttl : Nat) : Request :=
  c.message .put sessionPath (some []) (some (.json (sessionRequest name ttl)))

theorem createSession_eq (h : c.Sends) (name : String) (ttl : Nat) :
    createSession c name ttl = .ask (sessionMessage c name ttl) fun (d : Delivery) =>
      .done (readAs sessionOfDocument
        ((received (sessionMessage c name ttl).url d).bind decode)) := by
  unfold createSession putJson
  change (c.fetch .put sessionPath _ _).bind _ = _
  rw [fetch_eq h isVersioned_sessionPath]
  rfl

theorem createSession_asksOnly (c : Client) (name : String) (ttl : ℕ) :
    (createSession c name ttl).AsksOnly (HasBody (some (sessionRequest name ttl))) := by
  unfold createSession
  exact (c.putJson_asksOnly _ _ _).map_done _

theorem renewSession_asksOnly (c : Client) (session : SessionId) :
    (renewSession c session).AsksOnly (HasBody none) :=
  c.put_asksOnly _ none

theorem acquire_asksOnce (h : c.Sends) (key : String) (session : SessionId) :
    (acquire c key session).AsksOnce (c.message .put (keyPath key)
      (some [("acquire", session.text)]) (some (.bytes lockValue))) := by
  unfold acquire putRaw
  rw [fetch_eq h (isVersioned_keyPath key)]
  exact Plan.AsksOnce.bind ⟨_, rfl⟩ _

theorem release_asksOnce (h : c.Sends) (key : String) (session : SessionId) :
    (release c key session).AsksOnce (c.message .put (keyPath key)
      (some [("release", session.text)]) (some (.bytes lockValue))) := by
  unfold release putRaw
  rw [fetch_eq h (isVersioned_keyPath key)]
  exact Plan.AsksOnce.bind ⟨_, rfl⟩ _

end Rollcall.Consul
