import Rollcall.Proofs.Consul.Addresses
import Rollcall.Proofs.Fleet.Configured
import Rollcall.Proofs.Fleet.Phases
import Rollcall.Proofs.Fleet.Roster
import Rollcall.Proofs.Fleet.Tolerance

/-!
# What a configuration comes to

Every number of a configuration is limited once more where it is used: a heartbeat has a shortest
period, a session a shortest and a longest time to live, its renewal a shortest period, a check and
a retry policy count from one, and a window saturates. None of these limits is met by a valid
configuration, so what runs is what was written.
-/

namespace Rollcall

open Http

theorem Duration.secs_ofSecs (n : ℕ) : secs (ofSecs n) = n :=
  Nat.mul_div_cancel n (by decide)

namespace Config

variable {c : Config}

theorem livenessWindow_eq (c : Config) :
    let seconds := c.node.heartbeatIntervalSecs * c.discovery.livenessMultiplier
    c.livenessWindow =
      if seconds ≤ Text.max64 then Duration.ofSecs seconds else Duration.longest := by
  intro seconds
  have hproduct : c.heartbeatInterval * c.discovery.livenessMultiplier =
      Duration.ofSecs seconds := by
    unfold heartbeatInterval Duration.ofSecs
    exact Nat.mul_right_comm _ _ _
  have hfits : Duration.ofSecs seconds ≤ Duration.longest ↔ seconds ≤ Text.max64 := by
    unfold Duration.longest Duration.ofSecs Text.max64
    omega
  unfold livenessWindow Duration.scale
  rw [hproduct]
  simp only [hfits]

namespace Valid

theorem period_start (h : c.Valid) (now : ℕ) (id : InstanceId) (service : String)
    (signal : Signal) :
    (Heartbeat.start now id service c.heartbeatInterval signal).ticker.period =
      Duration.ofSecs c.node.heartbeatIntervalSecs :=
  max_eq_left h.shortestPeriod_le

theorem seconds_le (h : c.Valid) (hm : c.discovery.livenessMultiplier ≤ Text.max32) :
    c.node.heartbeatIntervalSecs * c.discovery.livenessMultiplier ≤ Text.max64 := by
  have hle := Nat.mul_le_mul h.heartbeat_le hm
  exact hle.trans (by decide)

theorem two_heartbeats_le (h : c.Valid) (hm : c.discovery.livenessMultiplier ≤ Text.max32) :
    2 * c.heartbeatInterval ≤ c.livenessWindow := by
  rw [h.livenessWindow_eq hm, Nat.mul_comm]
  exact Nat.mul_le_mul_left _ h.liveness

theorem heartbeat_lt_checkTtl (h : c.Valid) : c.heartbeatInterval < c.checkTtl := by
  have := h.checkTtl
  unfold heartbeatInterval Config.checkTtl Duration.ofSecs
  omega

theorem durationText_checkTtl (h : c.Valid) :
    Consul.durationText c.checkTtl = toString c.discovery.checkTtlSecs ++ "s" := by
  have hpos : 1 ≤ c.discovery.checkTtlSecs := by
    have := h.checkTtl
    omega
  unfold Consul.durationText Config.checkTtl
  rw [Duration.secs_ofSecs, max_eq_right hpos]

theorem clampTtl_sessionTtl (h : c.Valid) : Consul.clampTtl c.sessionTtl = c.sessionTtl := by
  unfold Consul.clampTtl
  rw [min_eq_left h.sessionTtl_le, max_eq_right h.sessionTtl_ge]

theorem two_renewals (h : c.Valid) :
    2 * LockProvider.renewalPeriod c.sessionTtl = c.sessionTtl := by
  have hge := h.sessionTtl_ge
  unfold LockProvider.renewalPeriod LockProvider.shortestPeriod
  unfold Consul.shortestSession sessionTtl Duration.ofSecs Duration.ofMillis at *
  omega

theorem attempts_retryPolicy (h : c.Valid) : c.retryPolicy.attempts = c.retry.maxAttempts := by
  have := h.attempts
  unfold RetryPolicy.attempts retryPolicy RetryPolicy.make
  dsimp only
  omega

theorem pause_pos (h : c.Valid) (outcome : Processor.Outcome) :
    0 < outcome.pause c.processorSettings := by
  apply Processor.pause_pos
  · exact Nat.mul_pos h.retryBackoff (by decide)
  · exact Nat.mul_pos h.runInterval (by decide)

end Valid

end Config

section Members

variable {B : Type} [Backend B] {f g : Fleet B} {c : Config} {id : InstanceId}
  {random : RandomSource} {app : App}

theorem Node.heartbeat_of_start {service address : String} {interval : ℕ} {node : Node}
    (h : Node.start f id service address interval = (.ok node, g)) :
    ∃ now, g.heartbeats.get? node.heartbeat = some (.start now id service interval {}) := by
  unfold Node.start at h
  rcases hr : f.perform (.register id service address) with ⟨e | u, f'⟩
  · rw [hr] at h
    cases h
  · rw [hr] at h
    cases h
    exact ⟨f'.now, (Table.get?_put _ _ _ _).trans (if_pos rfl)⟩

theorem Fleet.provider_of_openLock {ttl lock : ℕ} (h : f.openLock ttl = (.ok lock, g)) :
    g.heartbeats = f.heartbeats ∧
      ∃ session, g.locks.get? lock = some { provider := .holding f.now ttl session } := by
  -- A provider opens with a single call, so the fleet that it leaves is the one after that call.
  have hcall : f.callAll (LockProvider.start f.now ttl) =
      (((f.perform (.createSession ttl)).1 : Except Error SessionId).map
        (LockProvider.holding f.now ttl), (f.perform (.createSession ttl)).2) := rfl
  have hbeats : (f.perform (.createSession ttl)).2.heartbeats = f.heartbeats := rfl
  unfold Fleet.openLock at h
  rw [hcall] at h
  rcases hperform : f.perform (.createSession ttl) with ⟨e | session, f'⟩
  · rw [hperform] at h
    cases h
  · rw [hperform] at h hbeats
    cases h
    exact ⟨hbeats, session, (Table.get?_put _ _ _ _).trans (if_pos rfl)⟩

/-- An app that has started has the members that its configuration asks for. -/
theorem App.members_of_start (h : App.start f c id random = (.ok app, g)) :
    (∃ now, g.heartbeats.get? app.node.heartbeat =
      some (.start now id c.node.serviceName c.heartbeatInterval {})) ∧
    (c.lock.enabled = true → ∃ worker lock, app.processing = some (worker, lock) ∧
      g.workers.get? worker = some ⟨App.processor c random, lock⟩ ∧ ∃ now session,
        g.locks.get? lock = some { provider := .holding now c.sessionTtl session }) := by
  unfold App.start at h
  -- The heartbeat is started with the node, and opening the lock afterwards leaves it alone.
  rcases hnode : Node.start f id c.node.serviceName c.node.advertiseAddress c.heartbeatInterval
    with ⟨e | node, f₁⟩
  · rw [hnode] at h
    cases h
  have hbeat := Node.heartbeat_of_start hnode
  rw [hnode] at h
  dsimp only at h
  split_ifs at h with henabled
  · rcases hlock : f₁.openLock c.sessionTtl with ⟨e | lock, f₂⟩
    · rw [hlock] at h
      cases h
    · obtain ⟨hsame, session, hprovider⟩ := Fleet.provider_of_openLock hlock
      rw [hlock] at h
      cases h
      rw [← hsame] at hbeat
      refine ⟨hbeat, fun _ => ⟨_, lock, rfl, ?_, f₁.now, session, hprovider⟩⟩
      exact (Table.get?_put _ _ _ _).trans (if_pos rfl)
  · cases h
    exact ⟨hbeat, fun h => absurd h henabled⟩

end Members

def Consul.AgentSettings.requests {α : Type} (s : AgentSettings) (p : Plan Calls α) :
    Plan Exchange α :=
  p.interpret s.plan

/-- A provider renews its session, and creates another only with its own time to live. -/
theorem LockProvider.renewSession_meets (session : SessionId) (ttl : ℕ) :
    (renewSession session ttl).Meets
      (fun (call : Call) => call = .renewSession session ∨ call = .createSession ttl)
      fun _ => True := by
  refine ⟨.inl rfl, ?_⟩
  rintro (e | u)
  · dsimp only
    split_ifs
    · exact ⟨.inr rfl, fun _ => trivial⟩
    · trivial
  · trivial

theorem LockProvider.start_meets (now ttl : ℕ) :
    (start now ttl).Meets (fun (call : Call) => call = .createSession ttl) fun _ => True :=
  ⟨rfl, fun _ => trivial⟩

theorem Consul.AgentSettings.requests_asksOnly {α : Type} {s : AgentSettings}
    {p : Plan Calls α} {allowed : Call → Prop} {Q : α → Prop} {P : Request → Prop}
    (hp : p.Meets allowed Q) (h : ∀ call, allowed call → (s.plan call).AsksOnly P) :
    (s.requests p).AsksOnly P :=
  ⟨(hp.interpret fun call hc => (h call hc).meets).mono (fun _ hr => hr) fun _ _ => trivial⟩

namespace Config

open Consul

def Beats (c : Config) (beat : Heartbeat) : Prop :=
  beat.ticker.period = Duration.ofSecs c.node.heartbeatIntervalSecs

/-- The provider keeps sessions of the time to live that is written, and renews them twice in it. -/
structure Provides (c : Config) (p : LockProvider) : Prop where
  ttl : p.ttl = Duration.ofSecs c.lock.sessionTtlSecs
  period : 2 * p.ticker.period = Duration.ofSecs c.lock.sessionTtlSecs

structure Runs {B : Type} (c : Config) (app : App) (g : Fleet B) : Prop where
  heartbeat : ∃ beat, g.heartbeats.get? app.node.heartbeat = some beat ∧ c.Beats beat
  processing : c.lock.enabled = true → ∃ worker lock w t, app.processing = some (worker, lock) ∧
    g.workers.get? worker = some w ∧ w.lock = lock ∧ g.locks.get? lock = some t ∧
    c.Provides t.provider ∧ w.processor.settings = c.processorSettings ∧
    w.processor.job = Audit.job c.retryPolicy c.lock.watchServices

def TellsSession (c : Config) (r : Request) : Prop :=
  ∃ d, r.body = some (.json d) ∧ Has d "TTL" (.text (toString c.lock.sessionTtlSecs ++ "s"))

/-- An agent is told the times to live that are written: that of a check with each registration,
and that of a session when a provider opens, and when it has to replace its session. -/
structure Tells (c : Config) (s : AgentSettings) : Prop where
  check : ∀ id service address, (s.plan (.register id service address)).AsksOnly
    fun (r : Request) => ∃ d check, r.body = some (.json d) ∧ Has d "Check" check ∧
      Has check "TTL" (.text (toString c.discovery.checkTtlSecs ++ "s"))
  opened : ∀ now, (s.requests (LockProvider.start now c.sessionTtl)).AsksOnly c.TellsSession
  renewed : ∀ now p, c.Provides p →
    (s.requests (p.tick now)).AsksOnly fun (r : Request) => r.body = none ∨ c.TellsSession r
  sent : canSend s.client.base →
    (∀ id service address a, HostPort.read address = .ok a →
      ∃ r, (s.plan (.register id service address)).AsksOnce r) ∧
    ∃ r, (s.plan (.createSession c.sessionTtl)).AsksOnce r

variable {c : Config} {s : AgentSettings}

theorem Valid.provides (h : c.Valid) (now : ℕ) (session : SessionId) :
    c.Provides (.holding now c.sessionTtl session) :=
  ⟨rfl, h.two_renewals⟩

theorem Provides.tick {p : LockProvider} (h : c.Provides p) (now : ℕ) :
    (p.tick now).Meets
      (fun (call : Call) => call = .renewSession p.session ∨ call = .createSession p.ttl)
      c.Provides := by
  apply (LockProvider.renewSession_meets p.session p.ttl).bind
  intro session _
  exact ⟨h.ttl, (congrArg (2 * ·) (p.ticker.period_advance now)).trans h.period⟩

theorem Valid.runs {B : Type} [Backend B] {f g : Fleet B} {id : InstanceId}
    {random : RandomSource} {app : App} (h : c.Valid)
    (hstart : App.start f c id random = (.ok app, g)) : c.Runs app g := by
  obtain ⟨⟨now, hbeat⟩, hprocessing⟩ := App.members_of_start hstart
  refine ⟨⟨_, hbeat, h.period_start now id _ _⟩, ?_⟩
  intro henabled
  obtain ⟨worker, lock, happ, hworker, now, session, hlock⟩ := hprocessing henabled
  exact ⟨worker, lock, _, _, happ, hworker, rfl, hlock, h.provides now session, rfl, rfl⟩

theorem Valid.session_asksOnly (h : c.Valid) (s : AgentSettings) :
    (s.plan (.createSession c.sessionTtl)).AsksOnly c.TellsSession := by
  apply (createSession_asksOnly s.client s.sessionName c.sessionTtl).mono
  intro r hr
  refine ⟨_, hr, _, rfl, ?_⟩
  rw [h.clampTtl_sessionTtl]
  unfold sessionTtl
  rw [Duration.secs_ofSecs]
  rfl

theorem of_agentSettings (hs : AgentSettings.ofConfig c = .ok s) :
    s.registry.checkTtl = c.checkTtl ∧
      Client.ofAddress c.discovery.consulAddress = .ok s.client := by
  unfold AgentSettings.ofConfig at hs
  split at hs
  · cases hs
  · next hclient =>
    cases hs
    exact ⟨rfl, hclient⟩

theorem Valid.tells (h : c.Valid) (hs : AgentSettings.ofConfig c = .ok s) : c.Tells s := by
  obtain ⟨httl, hclient⟩ := of_agentSettings hs
  constructor
  · intro id service address
    apply (register_asksOnly s.client s.registry id service address).mono
    rintro r ⟨a, -, hr⟩
    refine ⟨_, _, hr, ⟨_, rfl, rfl⟩, ⟨_, rfl, ?_⟩⟩
    rw [← h.durationText_checkTtl, ← httl]
    cases s.registry.deregisterCriticalAfter <;> rfl
  · intro now
    apply AgentSettings.requests_asksOnly (LockProvider.start_meets now c.sessionTtl)
    rintro call rfl
    exact h.session_asksOnly s
  · intro now p hp
    apply AgentSettings.requests_asksOnly (hp.tick now)
    rintro call (rfl | rfl)
    · apply (renewSession_asksOnly s.client p.session).mono
      intro r hr
      exact .inl hr
    · have httl : p.ttl = c.sessionTtl := hp.ttl
      rw [httl]
      exact (h.session_asksOnly s).mono fun r hr => .inr hr
  · intro hsend
    have hsends := Client.sends_of_ofAddress hclient hsend
    constructor
    · intro id service address a ha
      exact ⟨_, _, register_eq hsends ha⟩
    · exact ⟨_, _, createSession_eq hsends s.sessionName c.sessionTtl⟩

/-- With a valid configuration, whose multiplier has 32 bits: an app runs with the interval of its
heartbeat, the time to live of its sessions and the settings of its processor that are written, and
its heartbeat and its provider stay like that. An agent is told the times to live that are written.
The window is the interval times the multiplier, which spans two reports; a check outlives the
interval between two of them; no pause is empty; and there are as many attempts as are written.
Whatever the configuration, the window is that product if it is a duration, and else the longest
one. -/
theorem used_as_written {N : Type} (c : Config) :
    (c.validate = .ok () → c.discovery.livenessMultiplier ≤ Text.max32 →
      (∀ {B : Type} [Backend B] (f g : Fleet B) id random app,
        App.start f c id random = (.ok app, g) → c.Runs app g) ∧
      (∀ beat now, c.Beats beat → c.Beats (beat.wake now).next) ∧
      (∀ p now, c.Provides p → (p.tick now).Meets (fun _ => True) c.Provides) ∧
      (∀ s, AgentSettings.ofConfig c = .ok s → c.Tells s) ∧
      (∀ (n : N) m, ConfiguredBackend.ofConfig c n = .ok (.memory m) →
        m.registry.window = c.livenessWindow) ∧
      (c.livenessWindow = Duration.ofSecs
          (c.node.heartbeatIntervalSecs * c.discovery.livenessMultiplier) ∧
        c.node.heartbeatIntervalSecs * c.discovery.livenessMultiplier ≤ Text.max64 ∧
        2 * c.heartbeatInterval ≤ c.livenessWindow) ∧
      c.heartbeatInterval < c.checkTtl ∧
      0 < c.processorSettings.workTimeout ∧
      (∀ outcome : Processor.Outcome, 0 < outcome.pause c.processorSettings) ∧
      c.retryPolicy.attempts = c.retry.maxAttempts) ∧
    c.livenessWindow =
      if c.node.heartbeatIntervalSecs * c.discovery.livenessMultiplier ≤ Text.max64 then
        Duration.ofSecs (c.node.heartbeatIntervalSecs * c.discovery.livenessMultiplier)
      else Duration.longest := by
  refine ⟨?_, c.livenessWindow_eq⟩
  intro hvalidate hm
  have h := validate_eq_ok_iff.mp hvalidate
  have hseconds := h.seconds_le hm
  have hwindow := c.livenessWindow_eq
  simp only [if_pos hseconds] at hwindow
  refine ⟨?_, ?_, ?_, ?_, ?_, ⟨hwindow, hseconds, h.two_heartbeats_le hm⟩, ?_, ?_, ?_, ?_⟩
  · intro B _ f g id random app hstart
    exact h.runs hstart
  · intro beat now hbeat
    unfold Beats
    rw [Heartbeat.period_next_wake]
    exact hbeat
  · intro p now hp
    exact (hp.tick now).mono (fun _ _ => trivial) fun _ hq => hq
  · intro s hs
    exact h.tells hs
  · intro n m hm
    rw [ConfiguredBackend.eq_of_ofConfig_memory hm]
    rfl
  · exact h.heartbeat_lt_checkTtl
  · exact Nat.mul_pos h.workTimeout (by decide)
  · exact h.pause_pos
  · exact h.attempts_retryPolicy

theorem used_as_written_at_the_limits :
    let c : Config := {
      node := { heartbeatIntervalSecs := maxHeartbeatSecs }
      discovery := { checkTtlSecs := 3601, livenessMultiplier := Text.max32 }
      lock := { enabled := true, sessionTtlSecs := 86400 } }
    c.livenessWindow = Duration.ofSecs (maxHeartbeatSecs * Text.max32) ∧
      (∃ s, AgentSettings.ofConfig c = .ok s ∧ c.Tells s) ∧
      ∃ app g, App.start (Fleet.on (.memory { registry := c.memoryRegistry } :
        ConfiguredBackend Script)) c ⟨"movie-1"⟩ (.ofSeed 0) = (.ok app, g) ∧ c.Runs app g := by
  intro c
  have hvalidate : c.validate = .ok () := by
    decide +kernel
  obtain ⟨hruns, -, -, htells, -, ⟨hwindow, -, -⟩, -⟩ :=
    (used_as_written (N := Script) c).1 hvalidate (by decide)
  refine ⟨hwindow, ?_, ?_⟩
  · have hclient : Consul.Client.ofAddress c.discovery.consulAddress =
        .ok Consul.Client.onThisHost := Consul.Client.ofAddress_default
    have hs : ∃ s, AgentSettings.ofConfig c = .ok s := by
      unfold AgentSettings.ofConfig
      rw [hclient]
      exact ⟨_, rfl⟩
    obtain ⟨s, hs⟩ := hs
    exact ⟨s, hs, htells s hs⟩
  · obtain ⟨app, happ⟩ := App.start_memory (f := Fleet.on (.memory
      { registry := c.memoryRegistry } : ConfiguredBackend Script)) rfl
      (validate_eq_ok_iff.mp hvalidate) ⟨"movie-1"⟩ (.ofSeed 0)
    refine ⟨app, _, Prod.ext happ rfl, ?_⟩
    exact hruns _ _ _ _ _ (Prod.ext happ rfl)

end Config

end Rollcall
