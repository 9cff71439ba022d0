import Rollcall.Fleet.Basic

/-!
# Members of a fleet

Heartbeats, lock providers and processors join a fleet, are signalled through their flags, and are
waited for. A member that was told to stop, or whose owner let go of it, ends by itself: a heartbeat
at once, a processor after the job it is in the middle of.
-/
namespace Rollcall.Fleet

variable {B : Type}

/-- Add a heartbeat; its number comes with the fleet. -/
def startHeartbeat (f : Fleet B) (id : InstanceId) (service : String) (period : Nat)
    (signal : Signal) : Nat × Fleet B :=
  (f.admitted,
    { f with heartbeats := f.heartbeats.put f.admitted (.start f.now id service period signal)
             admitted := f.admitted + 1 })

def heartbeatIsOver (f : Fleet B) (n : Nat) : Bool :=
  match f.heartbeats.get? n with
  | none => true
  | some h => h.ended

def signalHeartbeat (f : Fleet B) (n : Nat) (change : Signal → Signal) : Fleet B :=
  match f.heartbeats.get? n with
  | none => f
  | some h => { f with heartbeats := f.heartbeats.put n { h with signal := change h.signal } }

def openLock [Backend B] (f : Fleet B) (ttl : Nat) : Except Error Nat × Fleet B :=
  match f.callAll (LockProvider.start f.now ttl) with
  | (.error e, f) => (.error e, f)
  | (.ok provider, f) =>
    (.ok f.admitted,
      { f with locks := f.locks.put f.admitted { provider }, admitted := f.admitted + 1 })

def lockSession (f : Fleet B) (n : Nat) : Option SessionId :=
  (f.locks.get? n).map (·.provider.session)

def dropLock (f : Fleet B) (n : Nat) : Fleet B :=
  match f.locks.get? n with
  | none => f
  | some l => sweep { f with locks := f.locks.put n { l with isHandled := false } }

/-- Close a lock provider: end its renewal, then destroy its session. -/
def closeLock [Backend B] (f : Fleet B) (n : Nat) : Except Error Unit × Fleet B :=
  match f.locks.get? n with
  | none => (.ok (), f)
  | some l => { f with locks := f.locks.erase n }.callAll l.provider.close

def startWorker (f : Fleet B) (lock : Nat) (processor : Processor) : Nat × Fleet B :=
  (f.admitted,
    { f with workers := f.workers.put f.admitted { processor, lock }
             admitted := f.admitted + 1 })

def workerIsOver (f : Fleet B) (n : Nat) : Bool :=
  match f.workers.get? n with
  | none => true
  | some w => w.processor.isFinished

def signalWorker (f : Fleet B) (n : Nat) (change : Signal → Signal) : Fleet B :=
  match f.workers.get? n with
  | none => f
  | some w =>
    let processor := { w.processor with signal := change w.processor.signal }
    { f with workers := f.workers.put n { w with processor } }

/-- How many milliseconds the job that a processor is in the middle of may go on. -/
def jobBound (f : Fleet B) (n : Nat) : Nat :=
  match f.workers.get? n with
  | some ⟨{ phase := .working _ _ _ deadline, .. }, _⟩ => Duration.millis (deadline - f.now) + 1
  | _ => 0

/-- Wait for the end of a processor that was told to stop. -/
def joinWorker [Backend B] (f : Fleet B) (n : Nat) : Fleet B :=
  let f := f.settle
  runWhile (fun _ f => !f.workerIsOver n) (f.jobBound n + 1) f

/-- Make one pass with a processor that is no member, and wait for its outcome. -/
def runOnce [Backend B] (f : Fleet B) (lock : Nat) (processor : Processor) :
    Option Processor.Outcome × Fleet B :=
  let outcome (f : Fleet B) (n : Nat) : Option Processor.Outcome :=
    match f.workers.get? n with
    | some ⟨{ phase := .pausing o _, .. }, _⟩ => some o
    | _ => none
  let (n, f) := f.startWorker lock processor
  let f := f.wake (.worker n)
  let f := runWhile (fun _ f => (outcome f n).isNone) (f.jobBound n + 1) f
  (outcome f n, sweep { f with workers := f.workers.erase n })

end Rollcall.Fleet
