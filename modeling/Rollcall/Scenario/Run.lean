import Rollcall.Journal.Document
import Rollcall.Scenario.Command

/-!
# Running a scenario

Each command is answered by a document. After each command everything that is due is done, and what
the journal then holds is shown with the answer.
-/
namespace Rollcall.Scenario

open Document

def noSuchName : Document := .table [("error", .text "no_such_name")]

namespace World

def resolveTimes (service : String) : Nat → Plan Work (List (Except Error String))
  | 0 => .done []
  | n + 1 =>
    (Resolver.resolve service).bind fun r => (resolveTimes service n).map (r :: ·)

def pickDocument : Except Error String → Document
  | .ok address => .text address
  | .error e => e.toDocument

/-- Carry out quick work with the random source of a resolver. -/
def withResolver {α : Type} (w : World) (name : String) (random : RandomSource) (p : Plan Work α) :
    α × World :=
  let (a, (fleet, random)) := w.fleet.carryOut (fun _ f => f) random p
  (a, { w with fleet := { fleet with journal := w.fleet.journal },
               resolvers := w.resolvers.put name random })

def auditDocument (a : ServiceAudit) : Document :=
  .list [.text a.service, .nat a.live, .ofOption .text a.picked]

def appDocument (service : String) (app : App) (f : Fleet Home) : Document :=
  .list [.text service, .bool (app.node.isRunning f), .bool (app.isProcessing f)]

def startShared (w : World) (name : String) (c : Config) : Document × World :=
  let (id, w) := w.chooseId c.node.serviceName none
  match App.start w.fleet c id (.ofSeed 0) with
  | (.error e, fleet) => (e.toDocument, { w with fleet })
  | (.ok app, fleet) =>
    (success (appDocument app.node.service app fleet),
      { w with fleet }.nameApp name ⟨app, none⟩)

/-- Start an app on the backend that its configuration names. -/
def startApart (w : World) (name : String) (c : Config) : Document × World :=
  match ConfiguredBackend.ofConfig c ({} : Http.Script) with
  | .error e => (e.toDocument, w)
  | .ok home =>
    let fleet : Fleet Home := { backend := ⟨home, []⟩, now := w.fleet.now }
    match App.start fleet c ⟨s!"{c.node.serviceName}-gen"⟩ (.ofSeed 0) with
    | (.error e, _) => (e.toDocument, w)
    | (.ok app, fleet) =>
      (success (appDocument app.node.service app fleet), w.nameApp name ⟨app, some fleet⟩)

def shutdownApp (w : World) (h : Hosted) : World :=
  match h.apart with
  | none => w.changeFleet h.app.shutdown
  | some fleet => w.changeFleet (·.advanceTo (h.app.shutdown fleet).now)

def run (w : World) : Command → Document × World
  | .sleep d => (.null, w.changeFleet (·.advance d))
  | .jump d =>
    (.null, (w.changeFleet fun f => f.jump (f.now + d)).bringAlong fun now f => f.jump now)
  | .injectFault f => (.null, w.changeFleet fun g => { g with backend := g.backend.inject f })
  | .call c =>
    let (r, w) := w.onFleet (·.ask c)
    (Event.outcomeOf c r, w)
  | .holder key =>
    let (r, behind) := w.fleet.backend.behind.inspect (fun c =>
      let (r, locks) := c.locks.holder w.fleet.now key
      (r, { c with locks })) none
    (.ofOption (fun s => .text s.text) r,
      w.changeFleet fun f => { f with backend := { f.backend with behind } })
  | .sessionCount =>
    let (r, behind) := w.fleet.backend.behind.inspect (fun c =>
      let (r, locks) := c.locks.sessionCount w.fleet.now
      (r, { c with locks })) 0
    (.nat r, w.changeFleet fun f => { f with backend := { f.backend with behind } })
  | .openResolver name seed =>
    (.null, { w with resolvers := w.resolvers.put name (.ofSeed seed) })
  | .resolve name service count =>
    match w.resolvers.get? name with
    | none => (noSuchName, w)
    | some random =>
      let (picks, w) := w.withResolver name random (resolveTimes service count)
      (.list (picks.map pickDocument), w)
  | .connect name service path credentials =>
    match w.resolvers.get? name with
    | none => (noSuchName, w)
    | some random =>
      match credentials with
      | .error e => (e.toDocument, w)
      | .ok credentials =>
        match w.withResolver name random (Resolver.resolve service) with
        | (.error e, w) => (e.toDocument, w)
        | (.ok target, w) =>
          let connection := Connection.ofTarget target credentials
          (success (texts [connection.target, connection.url path]), w)
  | .audit services seed retry =>
    let (r, w) := w.onFleet (·.doWork (.ofSeed seed) (Audit.audit retry services))
    (outcome (fun report => .list (report.map auditDocument)) r, w)
  | .auditJob services seed retry =>
    let job := Audit.job retry services
    let (r, w) := w.onFleet (·.doWork (.ofSeed seed) job.plan)
    (.list [.text job.name, unitOutcome r], w)
  | .startHeartbeat name id service period stopped =>
    let (n, w) := w.onFleet (·.startHeartbeat id service period (.initially stopped))
    (.null, w.nameTask name (.heartbeat n))
  | .signal name value =>
    match w.tasks.get? name with
    | none => (noSuchName, w)
    | some t => (.null, w.signalTask t (·.send value))
  | .stop name =>
    match w.tasks.get? name with
    | none => (noSuchName, w)
    | some t =>
      let w := (w.signalTask t (·.send true)).joinTask t
      (.bool true, { w with tasks := w.tasks.erase name })
  | .dropOwner name =>
    match w.tasks.get? name with
    | none => (noSuchName, w)
    | some t =>
      let w := (w.signalTask t Signal.dropOwner).joinTask t
      (.bool true, { w with tasks := w.tasks.erase name })
  | .isFinished name =>
    match w.tasks.get? name with
    | none => (noSuchName, w)
    | some t => (.bool (w.taskIsOver t), w)
  | .startNode name service address id interval =>
    let (id, w) := w.chooseId service id
    match Node.start w.fleet id service address interval with
    | (.error e, fleet) => (e.toDocument, { w with fleet })
    | (.ok node, fleet) =>
      let w := { w with fleet }.nameNode name node
      (success (.list [.text node.id.text, .text node.service, .bool (node.isRunning w.fleet)]), w)
  | .isNodeRunning name =>
    match w.nodes.get? name with
    | none => (noSuchName, w)
    | some node => (.bool (node.isRunning w.fleet), w)
  | .shutdownNode name =>
    match w.nodes.get? name with
    | none => (noSuchName, w)
    | some node => (.null, { w.changeFleet node.shutdown with nodes := w.nodes.erase name })
  | .openLock name ttl =>
    match w.fleet.openLock ttl with
    | (.error e, fleet) => (e.toDocument, { w with fleet })
    | (.ok n, fleet) =>
      let session := (fleet.lockSession n).map (·.text)
      (success (.ofOption .text session), { w with fleet }.nameLock name n)
  | .lockSession name =>
    match (w.locks.get? name).bind w.fleet.lockSession with
    | none => (noSuchName, w)
    | some session => (.text session.text, w)
  | .acquireLock name key guard =>
    match (w.locks.get? name).bind w.fleet.lockSession with
    | none => (noSuchName, w)
    | some session =>
      match w.onFleet (quietly (·.callAll (LockProvider.acquire key session))) with
      | (.error e, w) => (e.toDocument, w)
      | (.ok none, w) => (success .null, w)
      | (.ok (some g), w) =>
        (success (texts [g.key, g.session.text, g.describe]),
          { w with guards := w.guards.put guard g })
  | .releaseGuard guard =>
    match w.guards.get? guard with
    | none => (noSuchName, w)
    | some g =>
      let (r, w) := w.onFleet (quietly (·.callAll g.release))
      (unitOutcome r, { w with guards := w.guards.erase guard })
  | .dropGuard guard =>
    match w.guards.get? guard with
    | none => (noSuchName, w)
    | some _ => (.null, { w with guards := w.guards.erase guard })
  | .closeLock name =>
    match w.locks.get? name with
    | none => (noSuchName, w)
    | some n =>
      if w.fleet.isInUse n then (.text "shared", w)
      else
        let (r, w) := w.onFleet (·.closeLock n)
        (unitOutcome r, { w with locks := w.locks.erase name })
  | .dropLock name =>
    match w.locks.get? name with
    | none => (noSuchName, w)
    | some n => (.null, { w.changeFleet (·.dropLock n) with locks := w.locks.erase name })
  | .runOnce p =>
    match w.locks.get? p.lock with
    | none => (noSuchName, w)
    | some n =>
      let (r, w) := w.onFleet (·.runOnce n (p.make {}))
      (.ofOption (fun o => .text o.name) r, w)
  | .startProcessor p stopped =>
    match w.locks.get? p.lock with
    | none => (noSuchName, w)
    | some n =>
      let (k, w) := w.onFleet (·.startWorker n (p.make (.initially stopped)))
      (.null, w.nameTask p.name (.worker k))
  | .startApp name c own => if own then w.startApart name c else w.startShared name c
  | .appInfo name =>
    match w.apps.get? name with
    | none => (noSuchName, w)
    | some h => (appDocument h.app.node.service h.app (h.apart.getD w.fleet), w)
  | .shutdownApp name =>
    match w.apps.get? name with
    | none => (noSuchName, w)
    | some h => (.null, { w.shutdownApp h with apps := w.apps.erase name })
  | .unknown => (.table [("error", .text "bad_input")], w)

/-- What is shown after a command: the time, the answer, and the events. -/
def entry (w : World) (answer : Document) : Document :=
  .table <| [("t", .nat (Duration.millis w.fleet.now)), ("r", answer)] ++
    match w.fleet.journal.sorted with
    | [] => []
    | events => [("events", .list events)]

/-- Run a command and then everything that is due. -/
def step (w : World) (c : Command) : Document × World :=
  let (answer, w) := w.run c
  let w := w.settle
  (w.entry answer, w.changeFleet fun f => { f with journal := [] })

def runAll (w : World) : List Command → List Document
  | [] => []
  | c :: rest =>
    let (d, w) := w.step c
    d :: w.runAll rest

end World

end Rollcall.Scenario
