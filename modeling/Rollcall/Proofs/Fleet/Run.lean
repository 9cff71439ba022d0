import Rollcall.Fleet.Members
import Rollcall.Proofs.Fleet.Turn

/-!
# Runs of a fleet

A fleet in memory changes when a member that is due is woken, in whatever order, when the clock
moves, and when a hand from outside reaches in: it starts, signals and lets go of members, makes
calls of its own, and makes calls fail. A run is any sequence of such steps. What is asked of the
steps is that no renewal is made to fail, that nobody outside destroys the session of a lock
provider or releases its keys, that no two processors use one provider at a time, and that the clock
does not outrun the renewals: it stops when one is due, or leaps by at most half a time to live.
-/

namespace Rollcall

namespace Fleet

def sessions (f : Fleet (Faulty Cluster)) : Set SessionId :=
  {id | ∃ n l, f.locks.get? n = some l ∧ l.provider.session = id}

/-- The shortest time to live of a session that is renewed twice in it. -/
def shortestTtl : Nat := Duration.ofMillis 200

inductive Step : Fleet (Faulty Cluster) → Fleet (Faulty Cluster) → Prop
  | wake {f t m} (hm : (t, m) ∈ f.duties) (ht : t ≤ f.now) : Step f (f.wake m)
  /-- The clock goes on, but not beyond the millisecond in which a renewal is due. -/
  | pass {f target} (hnow : f.now ≤ target)
      (hdue : ∀ n l, f.locks.get? n = some l →
        target ≤ max f.now (Instant.ceilMilli l.provider.ticker.due)) :
      Step f { f with now := target }
  /-- The clock leaps by at most half of every time to live, when no renewal is overdue. -/
  | leap {f target} (hnow : f.now ≤ target)
      (hdue : ∀ n l, f.locks.get? n = some l →
        f.now ≤ l.provider.ticker.due ∧ target - f.now ≤ l.provider.ttl / 2) :
      Step f { f with now := target }
  | inject {f fault} (hfault : fault.on ≠ .renewSession) :
      Step f { f with backend := f.backend.inject fault }
  | ask {f c} (hc : c.Within f.sessionsᶜ f.sessionsᶜ) : Step f (f.ask c).2
  | perform {f c} (hc : c.Within f.sessionsᶜ f.sessionsᶜ) : Step f (f.perform c).2
  | startHeartbeat {f id service period signal} :
      Step f (f.startHeartbeat id service period signal).2
  | signalHeartbeat {f n change} : Step f (f.signalHeartbeat n change)
  /-- A provider is opened. Its first period begins at once, as whoever is ready to go on has its turn
  before the clock goes on or leaps. -/
  | openLock {f ttl} (httl : shortestTtl ≤ ttl) : Step f (f.openLock ttl).2
  | dropLock {f n} : Step f (f.dropLock n)
  /-- A provider is closed by its owner, who has it to himself. -/
  | closeLock {f n} (hn : f.isInUse n = false) : Step f (f.closeLock n).2
  | startWorker {f lock p} (hready : p.isAtWork = false) (hjob : Work.KeepsOffLocks p.job.plan)
      (hlock : f.isInUse lock = false) : Step f (f.startWorker lock p).2
  | signalWorker {f n change} : Step f (f.signalWorker n change)
  | dismissWorker {f n} : Step f (sweep { f with workers := f.workers.erase n })

inductive Reachable : Fleet (Faulty Cluster) → Prop
  | start (registry : Registry) : Reachable { backend := { behind := { registry } } }
  | step {f g} (hf : Reachable f) (hstep : Step f g) : Reachable g

end Fleet

end Rollcall
