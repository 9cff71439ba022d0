import Rollcall.Proofs.Fleet.Settling
import Rollcall.Proofs.Fleet.Signs

/-!
# A node that departs

A node that is shut down tells its heartbeat to stop, waits until it has ended, and deregisters its
instance, whatever else befalls the fleet meanwhile. No report is made after that. So if the
instance could not be deregistered, its record grows old, and one liveness window after the latest
sign of life its address is not resolved any more.
-/

namespace Rollcall

theorem Faulty.record?_of_deregistered {b : Faulty Cluster} {now : Nat} {service : String}
    {id : InstanceId} (h : (Backend.perform b now (.deregister id service)).1 = .ok ()) :
    (Backend.perform b now (.deregister id service)).2.record? service id = none := by
  rcases perform_cases b now (.deregister id service) with ⟨e, -, hp⟩ | hp
  · rw [hp] at h
    cases h
  · rw [hp]
    exact (Table.get?_erase _ _ _).trans (if_pos rfl)

theorem Faulty.record?_of_not_deregistered {b : Faulty Cluster} {now : Nat} {service : String}
    {id : InstanceId} {e : Error}
    (h : (Backend.perform b now (.deregister id service)).1 = .error e) :
    (Backend.perform b now (.deregister id service)).2.record? service id =
      b.record? service id := by
  refine record?_perform ?_
  rw [h]
  rintro (⟨_, heq⟩ | heq | heq) <;> cases heq

namespace Fleet

variable {f g g' : Fleet (Faulty Cluster)} {h h' : List Scene} {s : Scene} {n : Nat}
  {id id' : InstanceId} {service service' address : String} {registry : Registry}

/-- Nobody but the members touches the record of the instance. -/
def LeavesRecord (h : List Scene) (members : List Member) (id : InstanceId) (service : String) :
    Prop :=
  ∀ s ∈ h, (∀ m ∈ members, s.actor? ≠ some m) → ∀ x ∈ s.happenings, ¬ x.Touches id service

theorem leavesRecord_append {members : List Member} :
    LeavesRecord (h' ++ h) members id service ↔
      LeavesRecord h' members id service ∧ LeavesRecord h members id service :=
  List.forall_mem_append

/-- Records are touched only by members that are woken, and by calls from outside. -/
theorem Scene.not_touches (hw : ∀ m, s.move ≠ .wake m) (hc : ∀ c, s.move ≠ .call c) :
    ∀ x ∈ s.happenings, ¬ x.Touches id service := by
  have hquiet : s.after.journal = s.before.journal →
      ∀ x ∈ s.happenings, ¬ x.Touches id service := by
    intro hj x hx
    rw [Scene.happenings_of_acts (.refl s.before) hj] at hx
    cases hx
  obtain ⟨f, m⟩ := s
  cases m with
  | wake m => exact absurd rfl (hw m)
  | call c => exact absurd rfl (hc c)
  | openLock ttl =>
    intro x hx htouch
    rw [Scene.happenings_of_open rfl, List.mem_singleton] at hx
    subst hx
    rcases htouch with ⟨_, heq⟩ | heq | heq <;> cases heq
  | closeLock k =>
    intro x hx htouch
    rcases Scene.actor_cases (s := ⟨f, .closeLock k⟩) rfl with ⟨-, heq⟩ | ⟨_, hmove, -⟩ |
      ⟨hmove, -⟩ | ⟨-, t, -, heq⟩
    · rw [heq] at hx
      cases hx
    · cases hmove
    · cases hmove
    · rw [heq, List.mem_singleton] at hx
      subst hx
      rcases htouch with ⟨_, heq⟩ | heq | heq <;> cases heq
  | signalHeartbeat n change => exact hquiet (rearranges_signalHeartbeat f n change).journal
  | dropLock n => exact hquiet (rearranges_dropLock f n).journal
  | signalWorker n change => exact hquiet (rearranges_signalWorker f n change).journal
  | _ => exact hquiet rfl

theorem LeavesRecord.eq_report (hx : LeavesRecord h [.heartbeat n] id service) (c : Course f h g)
    (hr : f.Reports n id service) : ∀ s ∈ h, ∀ x ∈ s.happenings, x.Touches id service →
      x = .called (.report id service) (.ok ()) := by
  intro s hs x hmem htouch
  obtain ⟨-, earlier, -, c', -⟩ := c.exists_of_mem hs
  by_cases ha : s.actor? = some (.heartbeat n)
  · exact ((c'.reports hr).of_touches ha hmem htouch).2.2
  · exact absurd htouch (hx s hs (by simpa using ha) x hmem)

theorem LeavesRecord.record?_eq_of_over {members : List Member}
    (hx : LeavesRecord h' members id service) (c : Course (start registry) h f)
    (ho : ∀ m ∈ members, f.IsOver m) (c' : Course f h' g) :
    g.backend.record? service id = f.backend.record? service id := by
  refine c'.record?_eq fun s hs x hmem => ?_
  by_cases ha : ∃ m ∈ members, s.actor? = some m
  · obtain ⟨m, hm, ha⟩ := ha
    obtain ⟨-, earlier, -, c'', -⟩ := c'.exists_of_mem hs
    rw [IsOver.happenings (c.silent (ho m hm) c'').1 ha] at hmem
    cases hmem
  · push Not at ha
    exact hx s hs ha x hmem

/-- No other instance of the service is registered with the address. -/
def IsAloneAt (f : Fleet (Faulty Cluster)) (id : InstanceId) (service address : String) : Prop :=
  ∀ id' record, f.backend.record? service id' = some record → record.address = address → id' = id

/-- A record without new signs of life gets too old to be resolved. -/
theorem not_lists_of_silent (c : Course (start registry) h f) (hu : registry.records.Unique)
    {last : Nat} (hrecord : f.backend.record? service id = some ⟨address, last⟩)
    (hlate : last + registry.window < f.now) (halone : f.IsAloneAt id service address) :
    ¬ f.Lists service address := by
  rw [lists_iff (c.records_unique hu), c.window_eq]
  rintro ⟨id', record, hr, haddress, hlive⟩
  obtain rfl := halone id' record hr haddress
  cases hr.symm.trans hrecord
  exact absurd hlive (not_le.mpr hlate)

/-- What becomes of a record after the last call that its members make: it is gone, or it could not
be deregistered and is left to grow old. -/
theorem record?_after_deregister (c : Course (start registry) h f) (hu : registry.records.Unique)
    {last : Nat} (hrecord : f.backend.record? service id = some ⟨address, last⟩)
    {members : List Member}
    (ho : ∀ m ∈ members, (f.perform (.deregister id service)).2.IsOver m)
    (c' : Course (f.perform (.deregister id service)).2 h' g)
    (hx : LeavesRecord h' members id service) :
    (f.perform (.deregister id service)).1 = .ok () ∧ g.backend.record? service id = none ∨
      (∃ e, (f.perform (.deregister id service)).1 = .error e) ∧
        g.backend.record? service id = some ⟨address, last⟩ ∧
        (last + registry.window < g.now → g.IsAloneAt id service address →
          ¬ g.Lists service address) := by
  have whole := c.go (.call (.deregister id service)) trivial
  have hlater := hx.record?_eq_of_over whole ho c'
  cases hr : (f.perform (.deregister id service)).1 with
  | ok =>
    have hok : (Backend.perform f.backend f.now (.deregister id service)).1 = .ok () := hr
    exact .inl ⟨rfl, hlater.trans (Faulty.record?_of_deregistered hok)⟩
  | error e =>
    have herror : (Backend.perform f.backend f.now (.deregister id service)).1 = .error e := hr
    have hkept := hlater.trans ((Faulty.record?_of_not_deregistered herror).trans hrecord)
    exact .inr ⟨⟨e, rfl⟩, hkept, not_lists_of_silent (whole.trans c') hu hkept⟩

end Fleet

namespace Node

open Fleet

variable {node : Node} {f g g' : Fleet (Faulty Cluster)} {h h' h₀ : List Scene}
  {registry : Registry}

/-- The node has told its heartbeat to stop, and it has ended. All that is left is to deregister. -/
structure Departs (node : Node) (f : Fleet (Faulty Cluster)) (h : List Scene)
    (g : Fleet (Faulty Cluster)) : Prop where
  course : Course (f.signalHeartbeat node.heartbeat (·.send true)) h g
  isOver : g.heartbeatIsOver node.heartbeat = true

theorem Departs.whole (d : node.Departs f h g) :
    Course f (h ++ [⟨f, .signalHeartbeat node.heartbeat (·.send true)⟩]) g :=
  (Course.stay.go (.signalHeartbeat node.heartbeat (·.send true)) trivial).trans d.course

/-- A node that is shut down departs, only by turns that its fleet gives to members. -/
theorem exists_departs (hp : Paced f) (hr : f.Reports node.heartbeat node.id node.service) :
    ∃ h g, node.Departs f h g ∧ (∀ s ∈ h, ∃ m, s.move = .wake m) ∧
      node.shutdown f = (g.perform (.deregister node.id node.service)).2 := by
  obtain ⟨-, beat, hb, -⟩ := hr
  have hp' : Paced (f.signalHeartbeat node.heartbeat (·.send true)) :=
    Paced.after (s := ⟨f, .signalHeartbeat node.heartbeat (·.send true)⟩) hp
  have htold : (f.signalHeartbeat node.heartbeat (·.send true)).IsTold node.heartbeat := by
    unfold IsTold signalHeartbeat
    rw [hb]
    exact ⟨_, (Table.get?_put _ _ _ _).trans (if_pos rfl), rfl⟩
  obtain ⟨h, c, hwakes⟩ := exists_course_settle (f.signalHeartbeat node.heartbeat (·.send true))
  exact ⟨h, _, ⟨c, heartbeatIsOver_settle hp' htold⟩, hwakes, rfl⟩

theorem Departs.isOver_after (d : node.Departs f h g)
    (hr : f.Reports node.heartbeat node.id node.service) :
    (g.perform (.deregister node.id node.service)).2.IsOver (.heartbeat node.heartbeat) :=
  ⟨hr.1.trans_le d.whole.admitted_le, d.isOver⟩

end Node

end Rollcall
