import Rollcall.Backend
import Rollcall.Fault
import Rollcall.Fleet.App
import Rollcall.Http.Script
import Rollcall.Service.Connection

/-!
# The world of a scenario

A scenario drives a fleet by commands that refer to things by name. The world keeps the fleet, the
names, and the apps that were started on backends of their own; those live apart from the fleet but
under the same clock. Nobody answers on the network.
-/
namespace Rollcall.Scenario

/-- A backend of a scenario: the one that a configuration names, with faults injected. -/
abbrev Home : Type := Faulty (ConfiguredBackend Http.Script)

inductive Task where
  | heartbeat (n : Nat)
  | worker (n : Nat)
  deriving DecidableEq, Repr

structure Hosted where
  app : App
  /-- The fleet of an app that has a backend of its own. -/
  apart : Option (Fleet Home)

structure World where
  fleet : Fleet Home
  generated : Nat := 0
  resolvers : Table String RandomSource := .empty
  tasks : Table String Task := .empty
  nodes : Table String Node := .empty
  locks : Table String Nat := .empty
  guards : Table String LockGuard := .empty
  apps : Table String Hosted := .empty

namespace World

def start (home : ConfiguredBackend Http.Script) : World := { fleet := { backend := ⟨home, []⟩ } }

def withRegistry (registry : Registry) : World := start (.memory { registry })

def onFleet {α : Type} (w : World) (f : Fleet Home → α × Fleet Home) : α × World :=
  let (a, fleet) := f w.fleet
  (a, { w with fleet })

def changeFleet (w : World) (f : Fleet Home → Fleet Home) : World := { w with fleet := f w.fleet }

/-- Do something without a trace in the journal. -/
def quietly {α : Type} (f : Fleet Home → α × Fleet Home) (fleet : Fleet Home) : α × Fleet Home :=
  let (a, after) := f fleet
  (a, { after with journal := fleet.journal })

def taskIsOver (w : World) : Task → Bool
  | .heartbeat n => w.fleet.heartbeatIsOver n
  | .worker n => w.fleet.workerIsOver n

def signalTask (w : World) (t : Task) (change : Signal → Signal) : World :=
  w.changeFleet fun f =>
    match t with
    | .heartbeat n => f.signalHeartbeat n change
    | .worker n => f.signalWorker n change

/-- Wait for the end of a task that was told to stop. A worker that lost its owner, and had not
looked at its flag since that was set, makes one more pass. -/
def joinTask (w : World) (t : Task) : World :=
  w.changeFleet fun f =>
    match t with
    | .heartbeat _ => f.settle
    | .worker n =>
      let f := f.joinWorker n
      if f.workerIsOver n then f else f.joinWorker n

/-- Give a task a name; a task that had it before loses its owner. -/
def nameTask (w : World) (name : String) (t : Task) : World :=
  let w := match w.tasks.get? name with
    | some old => w.signalTask old Signal.dropOwner
    | none => w
  { w with tasks := w.tasks.put name t }

def nameNode (w : World) (name : String) (n : Node) : World :=
  let w := match w.nodes.get? name with
    | some old => w.changeFleet old.abandon
    | none => w
  { w with nodes := w.nodes.put name n }

def nameLock (w : World) (name : String) (n : Nat) : World :=
  let w := match w.locks.get? name with
    | some old => w.changeFleet (·.dropLock old)
    | none => w
  { w with locks := w.locks.put name n }

def nameApp (w : World) (name : String) (h : Hosted) : World :=
  let w := match w.apps.get? name with
    | some ⟨app, none⟩ => w.changeFleet app.abandon
    | _ => w
  { w with apps := w.apps.put name h }

/-- The id of an instance: the given one, or a new one with the next number. -/
def chooseId (w : World) (service : String) (given : Option InstanceId) : InstanceId × World :=
  match given with
  | some id => (id, w)
  | none => (⟨s!"{service}-gen{w.generated + 1}"⟩, { w with generated := w.generated + 1 })

/-- Bring the apps that live apart to the present. -/
def bringAlong (w : World) (move : Nat → Fleet Home → Fleet Home) : World :=
  let apps := w.apps.entries.map fun (name, h) =>
    (name, { h with apart := h.apart.map (move w.fleet.now) })
  { w with apps := ⟨apps⟩ }

def settle (w : World) : World :=
  (w.changeFleet Fleet.settle).bringAlong fun now f => (f.advanceTo now).settle

end World

end Rollcall.Scenario
