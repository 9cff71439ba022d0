import Rollcall.Http.Script
import Rollcall.Journal.Document
import Rollcall.Backend
import Rollcall.Fleet.App
import Rollcall.Scenario.Run
import Rollcall.Service.Client

/-!
# Scenarios against a remote agent

These commands go to a Consul agent, or straight to a service, over a network that is scripted. The
answer to a command comes with the requests that reached the other side.
-/
namespace Rollcall.Scenario

open Http Document

/-- Whom a client of a service finds: the service's instances, and the seed of the choice. -/
structure Surroundings where
  service : String
  instances : List String
  seed : Nat
  credentials : Except Error Credentials
  retry : RetryPolicy

inductive RemoteCommand where
  | call (c : Call)
  | resolve (service : String) (seed : Nat)
  | audit (services : List String) (seed : Nat) (retry : RetryPolicy)
  | openLock (ttl : Nat)
  | acquireLock (key guard : String)
  | releaseGuard (guard : String)
  | closeLock
  | baseUrl
  | getJson (path : String) (query : List (String × String))
  | putJson (path : String) (query : List (String × String)) (body : Option Document)
  | putRaw (path : String) (query : List (String × String)) (body : List UInt8)
  | put (path : String) (body : Option Document)
  | connectionGet (target : String) (credentials : Except Error Credentials) (path : String)
      (query : List (String × String))
  | connectionPut (target : String) (credentials : Except Error Credentials) (path : String)
      (body : Document)
  | serviceGet (s : Surroundings) (path : String) (query : List (String × String))
  | servicePut (s : Surroundings) (path : String) (body : Document)
  /-- Run a node until so many requests were made, then shut it down. -/
  | node (id : InstanceId) (service address : String) (requests : Nat)
  | app (c : Config) (requests : Nat)
  | unknown

/-- An agent with a fleet of its own, and at most one lock provider. -/
structure Remote where
  fleet : Fleet (Consul.Agent Script)
  lock : Option LockProvider := none
  guards : Table String LockGuard := .empty

namespace Remote

def start (settings : Consul.AgentSettings) : Remote :=
  { fleet := { backend := { settings, network := {} } } }

def client (r : Remote) : Consul.Client := r.fleet.backend.settings.client

def onFleet {α : Type} (r : Remote)
    (f : Fleet (Consul.Agent Script) → α × Fleet (Consul.Agent Script)) : α × Remote :=
  let (a, fleet) := f r.fleet
  (a, { r with fleet })

def exchange {α : Type} (r : Remote) (p : Plan Exchange α) : α × Remote :=
  r.onFleet fun f =>
    let (a, network) := Consul.Agent.carryOut f.backend.network p
    (a, { f with backend := { f.backend with network } })

/-- The registry that a client finds, with everything registered just now. -/
def registryOf (s : Surroundings) : Cluster :=
  s.instances.foldl (fun c address =>
    (c.perform 0 (.register ⟨address⟩ "svc" address)).2) { registry := .standard }

structure Talking where
  cluster : Cluster
  random : RandomSource
  network : Script

def answerTalk : (s : ServiceClient.Step) → Talking → ServiceClient.Answer s × Talking
  | .work (.call c), t => let (r, cluster) := t.cluster.perform 0 c; (r, { t with cluster })
  | .work (.choose more), t => let (i, random) := t.random.choose more; (i, { t with random })
  | .work (.mark ..), t => ((), t)
  | .send q, t => let (d, network) := t.network.send q; (d, { t with network })

def talk {α : Type} (r : Remote) (s : Surroundings)
    (p : ServiceClient → Plan ServiceClient.Talk (Except Error α)) : Except Error α × Remote :=
  match s.credentials with
  | .error e => (.error e, r)
  | .ok credentials =>
    r.onFleet fun f =>
      let (a, t) := (p ⟨s.service, credentials, s.retry⟩).run answerTalk (fun _ t => t)
        ⟨registryOf s, .ofSeed s.seed, f.backend.network⟩
      (a, { f with backend := { f.backend with network := t.network } })

/-- Let time pass until so many requests were made, for as many rounds as there may be. -/
def waitForRequests (requests : Nat) (f : Fleet (Consul.Agent Script)) :
    Fleet (Consul.Agent Script) :=
  f.settle.runWhile (fun _ f => f.backend.network.log.length < requests) (1000 * requests + 1000)

def runNode (id : InstanceId) (service address : String) (requests : Nat)
    (f : Fleet (Consul.Agent Script)) : Document × Fleet (Consul.Agent Script) :=
  match Node.start f id service address Node.defaultInterval with
  | (.error e, f) => (e.toDocument, f)
  | (.ok node, f) => (success .null, node.shutdown (waitForRequests requests f))

def runApp (c : Config) (requests : Nat) (f : Fleet (Consul.Agent Script)) :
    Document × Fleet (Consul.Agent Script) :=
  match Consul.AgentSettings.ofConfig c with
  | .error e => (e.toDocument, f)
  | .ok settings =>
    let f := { f with backend := { f.backend with settings } }
    match App.start f c ⟨s!"{c.node.serviceName}-gen"⟩ (.ofSeed 0) with
    | (.error e, f) => (e.toDocument, f)
    | (.ok app, f) =>
      let f := waitForRequests requests f
      (success (.list [.text app.node.service, .bool (app.node.isRunning f),
        .bool (app.isProcessing f)]), app.shutdown f)

def run (r : Remote) : RemoteCommand → Document × Remote
  | .call c =>
    let (a, r) := r.onFleet (·.ask c)
    (Event.outcomeOf c a, r)
  | .resolve service seed =>
    let (a, r) := r.onFleet (·.doWork (.ofSeed seed) (Resolver.resolve service))
    (outcome text a, r)
  | .audit services seed retry =>
    let (a, r) := r.onFleet (·.doWork (.ofSeed seed) (Audit.audit retry services))
    (outcome (fun report => .list (report.map World.auditDocument)) a, r)
  | .openLock ttl =>
    match r.onFleet fun f => f.callAll (LockProvider.start f.now ttl) with
    | (.error e, r) => (e.toDocument, r)
    | (.ok p, r) => (success (text p.session.text), { r with lock := some p })
  | .acquireLock key guard =>
    match r.lock with
    | none => (noSuchName, r)
    | some p =>
      match r.onFleet (·.callAll (LockProvider.acquire key p.session)) with
      | (.error e, r) => (e.toDocument, r)
      | (.ok none, r) => (success .null, r)
      | (.ok (some g), r) =>
        (success (texts [g.key, g.session.text, g.describe]),
          { r with guards := r.guards.put guard g })
  | .releaseGuard guard =>
    match r.guards.get? guard with
    | none => (noSuchName, r)
    | some g =>
      let (a, r) := r.onFleet (·.callAll g.release)
      (unitOutcome a, { r with guards := r.guards.erase guard })
  | .closeLock =>
    match r.lock with
    | none => (noSuchName, r)
    | some p =>
      let (a, r) := r.onFleet (·.callAll p.close)
      (unitOutcome a, { r with lock := none })
  | .baseUrl => (text r.client.base.render, r)
  | .getJson path query =>
    let (a, r) := r.exchange (r.client.getJson path query)
    (outcome id a, r)
  | .putJson path query body =>
    let (a, r) := r.exchange (r.client.putJson path query body)
    (outcome id a, r)
  | .putRaw path query body =>
    let (a, r) := r.exchange (r.client.putRaw path query body)
    (outcome id a, r)
  | .put path body =>
    let (a, r) := r.exchange (r.client.put path body)
    (unitOutcome a, r)
  | .connectionGet target credentials path query =>
    match credentials with
    | .error e => (e.toDocument, r)
    | .ok credentials =>
      let (a, r) := r.exchange ((Connection.ofTarget target credentials).getJson path query)
      (outcome id a, r)
  | .connectionPut target credentials path body =>
    match credentials with
    | .error e => (e.toDocument, r)
    | .ok credentials =>
      let (a, r) := r.exchange ((Connection.ofTarget target credentials).putJson path body)
      (unitOutcome a, r)
  | .serviceGet s path query =>
    let (a, r) := r.talk s fun c => c.get path query
    (outcome id a, r)
  | .servicePut s path body =>
    let (a, r) := r.talk s fun c => c.put path body
    (unitOutcome a, r)
  | .node id service address requests => r.onFleet (runNode id service address requests)
  | .app c requests => r.onFleet (runApp c requests)
  | .unknown => (.table [("error", .text "bad_input")], r)

def requestDocument (q : Request) : Document :=
  let body := match q.body with
    | none | some (.bytes []) => []
    | some (.json d) => [("json", d)]
    | some (.bytes b) => [("text", text (Text.Utf8.decodeLossy b))]
  .table (body.filter (·.1 = "json") ++
    [("method", text q.method.name), ("target", text q.url.target)] ++
    body.filter (·.1 = "text"))

/-- The requests of a command; those of an app, whose parts do not wait for each other, in the order
of their written forms. -/
def requestDocuments (c : RemoteCommand) (s : Script) : List Document :=
  let requests := s.received.map requestDocument
  match c with
  | .app .. => requests.mergeSort fun a b => !(Json.render b < Json.render a)
  | _ => requests

def step (r : Remote) (c : RemoteCommand) (deliveries : List Delivery) : Document × Remote :=
  let network : Script := { deliveries }
  let r := { r with fleet := { r.fleet with backend := { r.fleet.backend with network } } }
  let (answer, r) := r.run c
  (.table [("r", answer),
    ("requests", .list (requestDocuments c r.fleet.backend.network))], r)

def runAll (r : Remote) : List RemoteCommand → List Document
  | [] => []
  | c :: rest =>
    let (d, r) := r.step c []
    d :: r.runAll rest

end Remote

end Rollcall.Scenario
