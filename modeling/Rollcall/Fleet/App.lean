import Rollcall.Audit
import Rollcall.Config.Basic
import Rollcall.Fleet.Node

/-!
# Apps

An app is a node and, if its lock is enabled, a processor that audits the watched services. When
the lock cannot be opened the node is shut down again, so an app that failed to start leaves nothing
running. On shutdown the processor ends first, then the lock is closed, then the node goes.
-/
namespace Rollcall

structure App where
  node : Node
  /-- The numbers of the processor and of its lock provider. -/
  processing : Option (Nat × Nat)
  deriving DecidableEq, Repr

namespace App

variable {B : Type} [Backend B]

/-- The processor of an app. -/
def processor (c : Config) (random : RandomSource) : Processor where
  settings := c.processorSettings
  job := Audit.job c.retryPolicy c.lock.watchServices
  random := random
  signal := {}

def start (f : Fleet B) (c : Config) (id : InstanceId) (random : RandomSource) :
    Except Error App × Fleet B :=
  match Node.start f id c.node.serviceName c.node.advertiseAddress c.heartbeatInterval with
  | (.error e, f) => (.error e, f)
  | (.ok node, f) =>
    if c.lock.enabled then
      match f.openLock c.sessionTtl with
      | (.error e, f) => (.error e, node.shutdown f)
      | (.ok lock, f) =>
        let (worker, f) := f.startWorker lock (processor c random)
        (.ok { node, processing := some (worker, lock) }, f)
    else (.ok { node, processing := none }, f)

def isProcessing (a : App) (f : Fleet B) : Bool :=
  match a.processing with
  | some (worker, _) => !f.workerIsOver worker
  | none => false

def shutdown (a : App) (f : Fleet B) : Fleet B :=
  let f := match a.processing with
    | some (worker, lock) =>
      let f := (f.signalWorker worker (·.send true)).joinWorker worker
      (f.closeLock lock).2
    | none => f
  a.node.shutdown f

/-- Let go of an app without shutting it down. -/
def abandon (a : App) (f : Fleet B) : Fleet B :=
  let f := match a.processing with
    | some (worker, lock) => (f.signalWorker worker Signal.dropOwner).dropLock lock
    | none => f
  a.node.abandon f

end App

end Rollcall
