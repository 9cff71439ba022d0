import Rollcall.Proofs.Fleet.Custody
import Rollcall.Proofs.Fleet.Startup

/-!
# Apps that run

An app that has started has a heartbeat and, if its lock is enabled, a lock provider and a
processor. As long as nobody takes these away they only keep up what is there, whatever else befalls
the fleet: the heartbeat reports the instance, the provider renews its session, and the processor
takes its lock and releases it.
-/

namespace Rollcall

namespace Fleet

variable {f g : Fleet (Faulty Cluster)} {ttl lock : Nat}

theorem openLock_of_ok (hok : (f.openLock ttl).1 = .ok lock) :
    lock = f.admitted ∧ ∃ sid, (f.openLock ttl).2 =
      { (f.perform (.createSession ttl)).2 with
        locks := f.locks.put lock { provider := .holding f.now ttl sid }
        admitted := lock + 1 } := by
  rw [openLock_fst] at hok
  rcases openLock_cases f ttl with ⟨e, herror, -⟩ | ⟨sid, hcreated, hafter⟩
  · rw [herror] at hok
    cases hok
  · rw [hcreated] at hok
    cases hok
    exact ⟨rfl, sid, hafter⟩

end Fleet

namespace App

open Fleet

variable {config : Config} {id : InstanceId} {random : RandomSource} {app : App}
  {f g : Fleet (Faulty Cluster)} {h h₀ : List Scene} {registry : Registry} {ttl : Nat} {m : Member}

/-- The heartbeat of an app, and its processor with the lock provider if it has them. -/
def members (app : App) : List Member :=
  .heartbeat app.node.heartbeat ::
    match app.processing with
    | some (worker, lock) => [.worker worker, .lock lock]
    | none => []

theorem mem_members : m ∈ app.members ↔ m = .heartbeat app.node.heartbeat ∨ ∃ worker lock,
    app.processing = some (worker, lock) ∧ (m = .worker worker ∨ m = .lock lock) := by
  unfold members
  rcases app.processing with _ | ⟨worker, lock⟩
  · simp
  · simp

/-- How an app starts in a fleet in which its instance has just been registered: the app, the scenes
until it has started, and the fleet then. Other members go on before the lock is opened. -/
inductive Starts (config : Config) (id : InstanceId) (random : RandomSource)
    (f : Fleet (Faulty Cluster)) : App → List Scene → Fleet (Faulty Cluster) → Prop
  | unlocked (disabled : config.lock.enabled = false) :
      Starts config id random f ⟨⟨id, config.node.serviceName, f.admitted⟩, none⟩
        [⟨f, .startHeartbeat id config.node.serviceName config.heartbeatInterval {}⟩]
        (f.startHeartbeat id config.node.serviceName config.heartbeatInterval {}).2
  | locked {h f₁ lock} (enabled : config.lock.enabled = true)
      (c : Course (f.startHeartbeat id config.node.serviceName config.heartbeatInterval {}).2 h f₁)
      (opened : (f₁.openLock config.sessionTtl).1 = .ok lock) :
      Starts config id random f
        ⟨⟨id, config.node.serviceName, f.admitted⟩, some (lock + 1, lock)⟩
        (⟨(f₁.openLock config.sessionTtl).2, .startWorker lock (processor config random)⟩ ::
          ⟨f₁, .openLock config.sessionTtl⟩ :: (h ++
          [⟨f, .startHeartbeat id config.node.serviceName config.heartbeatInterval {}⟩]))
        ((f₁.openLock config.sessionTtl).2.startWorker lock (processor config random)).2

theorem Starts.course (hs : Starts config id random f app h g) : Course f h g := by
  have c := Course.stay.go (f := f)
    (.startHeartbeat id config.node.serviceName config.heartbeatInterval {}) trivial
  cases hs with
  | unlocked => exact c
  | locked enabled c' opened =>
    exact ((c.trans c').go (.openLock config.sessionTtl) trivial).go
      (.startWorker _ (processor config random)) trivial

theorem Starts.node_eq (hs : Starts config id random f app h g) :
    app.node = ⟨id, config.node.serviceName, f.admitted⟩ := by
  cases hs <;> rfl

theorem Starts.admitted_le (hs : Starts config id random f app h g) {worker lock : Nat}
    (happ : app.processing = some (worker, lock)) : f.admitted ≤ lock := by
  cases hs with
  | unlocked => cases happ
  | locked enabled c opened =>
    cases happ
    have hle := c.admitted_le
    rw [(openLock_of_ok opened).1]
    exact (Nat.le_succ _).trans hle

/-- An app that starts does so in this way, and nothing goes on meanwhile. -/
theorem exists_starts_of_start (hstart : App.start f config id random = (.ok app, g)) :
    (f.perform (registration config id)).1 = .ok () ∧
      ∃ h, Starts config id random (f.perform (registration config id)).2 app h g := by
  unfold App.start at hstart
  rcases Node.start_cases f id config.node.serviceName config.node.advertiseAddress
    config.heartbeatInterval with ⟨e, -, heq⟩ | ⟨hok, heq⟩
  · rw [heq] at hstart
    cases hstart
  · refine ⟨hok, ?_⟩
    rw [heq] at hstart
    simp only at hstart
    split_ifs at hstart with henabled
    · obtain ⟨f₁, hf₁⟩ : ∃ f₁, f₁ = ((f.perform (registration config id)).2.startHeartbeat id
        config.node.serviceName config.heartbeatInterval {}).2 := ⟨_, rfl⟩
      rw [← hf₁] at hstart
      rcases hopen : f₁.openLock config.sessionTtl with ⟨e | lock, f₂⟩
      · rw [hopen] at hstart
        cases hstart
      · rw [hopen] at hstart
        obtain rfl : f₂ = (f₁.openLock config.sessionTtl).2 := by rw [hopen]
        have hok : (f₁.openLock config.sessionTtl).1 = .ok lock := by rw [hopen]
        obtain ⟨-, sid, hafter⟩ := openLock_of_ok hok
        have hnumber : (f₁.openLock config.sessionTtl).2.admitted = lock + 1 := by rw [hafter]
        simp only [startWorker, hnumber] at hstart
        cases hstart
        subst hf₁
        have hlocked : Starts config id random _ _ _ _ := .locked henabled .stay hok
        simp only [startWorker, hnumber] at hlocked
        exact ⟨_, hlocked⟩
    · cases hstart
      exact ⟨_, .unlocked (by simpa using henabled)⟩

/-- In the scenes nobody takes away the processor of the app or its lock provider. -/
def IsSpared (app : App) (h : List Scene) : Prop :=
  ∀ worker lock, app.processing = some (worker, lock) → ∀ s ∈ h, s.move.Spares worker lock

/-- The members of the app are there. -/
structure Serves (app : App) (ttl : Nat) (f : Fleet (Faulty Cluster)) : Prop where
  reports : f.Reports app.node.heartbeat app.node.id app.node.service
  processes : ∀ worker lock, app.processing = some (worker, lock) → f.Processes worker lock ttl

theorem Starts.serves (hs : Starts config id random f app h g) :
    app.Serves config.sessionTtl g := by
  have hr := reports_startHeartbeat f id config.node.serviceName config.heartbeatInterval {}
  cases hs with
  | unlocked => exact ⟨hr, nofun⟩
  | @locked h f₁ lock enabled c opened =>
    obtain ⟨-, sid, hafter⟩ := openLock_of_ok opened
    refine ⟨((c.go (.openLock config.sessionTtl) trivial).go
      (.startWorker lock (processor config random)) trivial).reports hr, ?_⟩
    rintro _ _ ⟨⟩
    rw [hafter]
    exact ⟨⟨by exact Nat.lt_succ_of_lt (Nat.lt_succ_self lock), _,
        (Table.get?_put _ _ _ _).trans (if_pos rfl), rfl, rfl⟩,
      Nat.lt_succ_self _, _, (Table.get?_put _ _ _ _).trans (if_pos rfl), rfl,
      Audit.job_onlyReads _ _, trivial⟩

theorem Serves.course (c₀ : Course (Fleet.start registry) h₀ f) (hs : app.Serves ttl f)
    (c : Course f h g) (hspared : app.IsSpared h) : app.Serves ttl g :=
  ⟨c.reports hs.reports, fun worker lock happ =>
    c₀.processes (hs.processes worker lock happ) c (hspared worker lock happ)⟩

/-- All that the members of the app ask for, in the scenes, is to report its instance, or touches no
record and ends no session. -/
def KeepsUp (app : App) (h : List Scene) : Prop :=
  ∀ s ∈ h, ∀ m ∈ app.members, s.actor? = some m → ∀ c r, .called c r ∈ s.happenings →
    c = .report app.node.id app.node.service ∨ c.IsMild

theorem Serves.keepsUp (c₀ : Course (Fleet.start registry) h₀ f) (hs : app.Serves ttl f)
    (c : Course f h g) (hspared : app.IsSpared h) : app.KeepsUp h := by
  intro s hmem m hm ha call r hx
  obtain ⟨later, earlier, rfl, c', -⟩ := c.exists_of_mem hmem
  have hserves := hs.course c₀ c' fun worker lock happ s' hs' =>
    hspared worker lock happ s' (List.mem_append_right _ (List.mem_cons_of_mem _ hs'))
  rcases mem_members.mp hm with rfl | ⟨worker, lock, happ, hm⟩
  · obtain ⟨_, heq⟩ := hserves.reports.happenings ha hx
    cases heq
    exact .inl rfl
  · have hp := hserves.processes worker lock happ
    refine .inr (hp.isMild (hspared worker lock happ s hmem) ?_ hx)
    rcases hm with rfl | rfl
    · exact .inl ha
    · exact .inr ha

theorem keepsUp_of_isOver (c₀ : Course (Fleet.start registry) h₀ f)
    (hr : f.Reports app.node.heartbeat app.node.id app.node.service)
    (ho : ∀ worker lock, app.processing = some (worker, lock) →
      f.IsOver (.worker worker) ∧ f.IsOver (.lock lock)) (c : Course f h g) : app.KeepsUp h := by
  intro s hmem m hm ha call r hx
  obtain ⟨-, earlier, -, c', -⟩ := c.exists_of_mem hmem
  rcases mem_members.mp hm with rfl | ⟨worker, lock, happ, hm⟩
  · obtain ⟨_, heq⟩ := (c'.reports hr).happenings ha hx
    cases heq
    exact .inl rfl
  · have hover : f.IsOver m := by
      rcases hm with rfl | rfl
      · exact (ho worker lock happ).1
      · exact (ho worker lock happ).2
    rw [IsOver.happenings (c₀.silent hover c').1 ha] at hx
    cases hx

theorem KeepsUp.eq_report (hk : app.KeepsUp h)
    (hx : LeavesRecord h app.members app.node.id app.node.service) : ∀ s ∈ h, ∀ x ∈ s.happenings,
      x.Touches app.node.id app.node.service →
        x = .called (.report app.node.id app.node.service) (.ok ()) := by
  intro s hs x hmem htouch
  by_cases ha : ∃ m ∈ app.members, s.actor? = some m
  · obtain ⟨m, hm, ha⟩ := ha
    rcases htouch with ⟨address, rfl⟩ | rfl | rfl
    · rcases hk s hs m hm ha _ _ hmem with heq | hmild
      · cases heq
      · cases hmild
    · rcases hk s hs m hm ha _ _ hmem with heq | hmild
      · cases heq
      · cases hmild
    · rfl
  · push Not at ha
    exact absurd htouch (hx s hs ha x hmem)

theorem Starts.eq_report (hs : Starts config id random f app h g)
    (hx : LeavesRecord h [.heartbeat app.node.heartbeat] app.node.id app.node.service) :
    ∀ s ∈ h, ∀ x ∈ s.happenings, x.Touches app.node.id app.node.service →
      x = .called (.report app.node.id app.node.service) (.ok ()) := by
  have hstart : ∀ x ∈ Scene.happenings ⟨f, .startHeartbeat id config.node.serviceName
      config.heartbeatInterval {}⟩, ¬ x.Touches app.node.id app.node.service :=
    Scene.not_touches nofun nofun
  cases hs with
  | unlocked =>
    intro s hs x hmem htouch
    obtain rfl := List.mem_singleton.mp hs
    exact absurd htouch (hstart x hmem)
  | @locked h f₁ lock enabled c opened =>
    intro s hs x hmem htouch
    rcases List.mem_cons.mp hs with rfl | hs'
    · exact absurd htouch (Scene.not_touches (s := ⟨(f₁.openLock config.sessionTtl).2,
        .startWorker lock (processor config random)⟩) nofun nofun x hmem)
    · rcases List.mem_cons.mp hs' with rfl | hs'
      · exact absurd htouch (Scene.not_touches (s := ⟨f₁, .openLock config.sessionTtl⟩) nofun nofun
          x hmem)
      · rcases List.mem_append.mp hs' with hs' | hs'
        · have hbetween : LeavesRecord h [.heartbeat f.admitted] id config.node.serviceName :=
            fun s hs => hx s (List.mem_cons_of_mem _ (List.mem_cons_of_mem _
              (List.mem_append_left _ hs)))
          exact hbetween.eq_report c (reports_startHeartbeat f id config.node.serviceName
            config.heartbeatInterval {}) s hs' x hmem htouch
        · obtain rfl := List.mem_singleton.mp hs'
          exact absurd htouch (hstart x hmem)

end App

end Rollcall
