import Rollcall.Fleet.Basic
import Rollcall.Proofs.Cluster
import Rollcall.Proofs.Plan

/-!
# What calls leave of a fleet

Calls that a fleet makes for a member change its backend and its journal and nothing else, and of
the backend they change no more than the calls themselves may.
-/

namespace Rollcall

/-- A step of work that, if it is a call, destroys and releases no more than is allowed. -/
def Work.Step.Within (D R : Set SessionId) : Work.Step → Prop
  | .call c => c.Within D R
  | _ => True

namespace Fleet

/-- The members are the same, and the backend is as calls within bounds have left it. -/
structure Keeps (D R : Set SessionId) (f g : Fleet (Faulty Cluster)) : Prop where
  now_eq : g.now = f.now
  locks_eq : g.locks = f.locks
  workers_eq : g.workers = f.workers
  admitted_eq : g.admitted = f.admitted
  backend : f.backend.Keeps f.now D R g.backend

variable {f g h : Fleet (Faulty Cluster)} {D R : Set SessionId}

theorem Keeps.refl (hs : f.backend.Sound) (D R : Set SessionId) : Keeps D R f f :=
  ⟨rfl, rfl, rfl, rfl, .refl hs f.now D R⟩

theorem Keeps.trans (hfg : Keeps D R f g) (hgh : Keeps D R g h) : Keeps D R f h where
  now_eq := hgh.now_eq.trans hfg.now_eq
  locks_eq := hgh.locks_eq.trans hfg.locks_eq
  workers_eq := hgh.workers_eq.trans hfg.workers_eq
  admitted_eq := hgh.admitted_eq.trans hfg.admitted_eq
  backend := hfg.backend.trans (hfg.now_eq ▸ hgh.backend)

theorem Keeps.mono {D' R' : Set SessionId} (hfg : Keeps D R f g) (hD : D ⊆ D') (hR : R ⊆ R') :
    Keeps D' R' f g :=
  { hfg with backend := hfg.backend.mono hD hR }

theorem keeps_ask (hs : f.backend.Sound) {c : Call} (hc : c.Within D R) :
    Keeps D R f (f.ask c).2 :=
  ⟨rfl, rfl, rfl, rfl, hs.keeps_perform f.now hc⟩

theorem keeps_perform (hs : f.backend.Sound) {c : Call} (hc : c.Within D R) :
    Keeps D R f (f.perform c).2 :=
  ⟨rfl, rfl, rfl, rfl, hs.keeps_perform f.now hc⟩

theorem keeps_carryOut (hs : f.backend.Sound) {α : Type} {Q : α → Prop} {p : Plan Work α}
    (hp : p.Meets (Work.Step.Within D R) Q) (random : RandomSource) :
    Q (f.carryOut (fun _ f => f) random p).1 ∧
      Keeps D R f (f.carryOut (fun _ f => f) random p).2.1 := by
  refine hp.run (fun s : Fleet (Faulty Cluster) × RandomSource => Keeps D R f s.1)
    (fun step s hstep hg => ?_) (fun _ _ hg => hg) (.refl hs D R)
  cases step with
  | call c => exact hg.trans (keeps_perform hg.backend.sound hstep)
  | choose more => exact hg
  | mark job stage => exact hg.trans ⟨rfl, rfl, rfl, rfl, .refl hg.backend.sound _ D R⟩

theorem carryOut_bind {B : Type} [Backend B] {α β : Type} (pass : Nat → Fleet B → Fleet B)
    (f : Fleet B) (random : RandomSource) (p : Plan Work α) (k : α → Plan Work β) :
    f.carryOut pass random (p.bind k) =
      (f.carryOut pass random p).2.1.carryOut pass (f.carryOut pass random p).2.2
        (k (f.carryOut pass random p).1) :=
  Plan.run_bind _ _ p k (f, random)

theorem carryOut_call {B : Type} [Backend B] {α : Type} (pass : Nat → Fleet B → Fleet B)
    (f : Fleet B) (random : RandomSource) (c : Call) (k : c.Outcome → Plan Work α) :
    f.carryOut pass random (.ask (.call c) k) =
      (f.perform c).2.carryOut pass random (k (f.perform c).1) :=
  rfl

end Fleet

end Rollcall
