import Rollcall.Backend
import Rollcall.Proofs.Config.Validity
import Rollcall.Proofs.Fleet.Onward

/-!
# How many lost reports a node survives

The liveness window spans as many heartbeat intervals as the multiplier of the configuration says,
boundary included. So a node whose reports are made on time is resolved as long as fewer of them
fail in a row than that, and is not resolved after as many failures.
-/

namespace Rollcall

theorem ConfiguredBackend.eq_of_ofConfig_memory {N : Type} {config : Config} {network : N}
    {b : Cluster} (h : ofConfig config network = .ok (.memory b)) :
    b = { registry := config.memoryRegistry } := by
  unfold ofConfig at h
  split at h
  · cases h
    rfl
  · cases hs : Consul.AgentSettings.ofConfig config with
    | error e =>
      rw [hs] at h
      cases h
    | ok settings =>
      rw [hs] at h
      cases h

namespace Config

variable {config : Config}

theorem Valid.shortestPeriod_le (h : config.Valid) :
    Heartbeat.shortestPeriod ≤ config.heartbeatInterval := by
  have := h.heartbeat_pos
  simp only [Heartbeat.shortestPeriod, heartbeatInterval, Duration.ofMillis, Duration.ofSecs]
  omega

theorem millis_dvd_heartbeatInterval (config : Config) :
    Duration.ofMillis 1 ∣ config.heartbeatInterval :=
  (by decide : Duration.ofMillis 1 ∣ 1000000000).mul_left _

end Config

namespace Fleet

def Lists (f : Fleet (Faulty Cluster)) (service address : String) : Prop :=
  ∃ l, f.backend.behind.registry.addresses f.now service = .ok l ∧ address ∈ l

variable {f g : Fleet (Faulty Cluster)} {h : List Scene}

theorem lists_iff (hu : f.backend.behind.registry.records.Unique) {service address : String} :
    f.Lists service address ↔ ∃ id record, f.backend.record? service id = some record ∧
      record.address = address ∧ f.now ≤ record.lastActive + f.backend.behind.registry.window :=
  Registry.mem_addresses_iff hu

theorem Course.window_eq (c : Course f h g) :
    g.backend.behind.registry.window = f.backend.behind.registry.window := by
  induction c with
  | stay => rfl
  | @go h g c m hm ih =>
    obtain ⟨b, hb, hbehind, -⟩ := Scene.undergoes ⟨g, m⟩
    rw [← ih, ← hb.window_eq, ← hbehind]
    rfl

theorem Course.records_unique (c : Course f h g)
    (hu : f.backend.behind.registry.records.Unique) :
    g.backend.behind.registry.records.Unique := by
  induction c with
  | stay => exact hu
  | @go h g c m hm ih =>
    obtain ⟨b, hb, hbehind, -⟩ := Scene.undergoes ⟨g, m⟩
    have hunique := hb.records_unique ih
    rwa [← hbehind] at hunique

theorem exists_course_start {id : InstanceId} {service address : String} {interval : Nat}
    {node : Node} (hstart : Node.start f id service address interval = (.ok node, g)) :
    ∃ h, Course f h g := by
  unfold Node.start at hstart
  split at hstart
  · cases hstart
  · next u f' hperform =>
    cases hstart
    have c := (Course.stay (f := f)).go (.call (.register id service address)) trivial
    rw [show f.after (.call (.register id service address)) = f' from
      congrArg Prod.snd hperform] at c
    exact ⟨_, c.go (.startHeartbeat id service interval {}) trivial⟩

theorem Beating.exists_course {node : Node} {address : String} {period since target : Nat}
    (hb : Beating h f node address period since) (hp : Paced f) (hle : f.now ≤ target) :
    ∃ h' g, Course f h' g ∧ g.now = target ∧ ∀ s ∈ h', s.AttendsTo (.heartbeat node.heartbeat) := by
  obtain ⟨due, last, hbeat, -, hnow, -⟩ := hb.beats
  refine exists_course_punctual hp nofun (fun d hd hm => ?_) hle
  obtain ⟨t, m⟩ := d
  obtain rfl : m = .heartbeat node.heartbeat := hm
  obtain ⟨beat, hbeat', hdue⟩ := heartbeat_of_mem_duties hp.heartbeats_unique hd
  cases hbeat.symm.trans hbeat'
  cases hdue
  exact hnow

/-- That the heartbeat of a node is on time does not stop the clock: whatever has become of its
reports, there is a course to any later instant on which it has been on time, nobody has told it
anything, and nobody else has touched the record. -/
theorem Course.goes_on_reporting {N : Type} {network : N} {config : Config} {b : Cluster}
    {f₀ f g : Fleet (Faulty Cluster)} {h₀ h : List Scene} {id : InstanceId} {node : Node}
    (hvalid : config.validate = .ok ())
    (hbackend : ConfiguredBackend.ofConfig config network = .ok (.memory b))
    (c₀ : Course { backend := { behind := b } } h₀ f₀)
    (hstart : Node.start f₀ id config.node.serviceName config.node.advertiseAddress
      config.heartbeatInterval = (.ok node, f))
    (c : Course f h g) (hp : ∀ s ∈ h, s.IsPunctual (.heartbeat node.heartbeat))
    (hs : ∀ s ∈ h, ∀ change, s.move ≠ .signalHeartbeat node.heartbeat change)
    (hx : ∀ s ∈ h, s.actor? ≠ some (.heartbeat node.heartbeat) →
      ∀ x ∈ s.happenings, ¬ x.Touches node.id node.service)
    {target : Nat} (hle : g.now ≤ target) :
    ∃ h' g', Course f (h' ++ h) g' ∧ g'.now = target ∧
      (∀ s ∈ h' ++ h, s.IsPunctual (.heartbeat node.heartbeat)) ∧
      (∀ s ∈ h' ++ h, ∀ change, s.move ≠ .signalHeartbeat node.heartbeat change) ∧
      ∀ s ∈ h' ++ h, s.actor? ≠ some (.heartbeat node.heartbeat) →
        ∀ x ∈ s.happenings, ¬ x.Touches node.id node.service := by
  have valid := Config.validate_eq_ok_iff.mp hvalid
  obtain rfl := ConfiguredBackend.eq_of_ofConfig_memory hbackend
  obtain ⟨h₁, c₁⟩ := exists_course_start hstart
  obtain ⟨-, -, hbeating⟩ := beating_start hstart valid.shortestPeriod_le
  have hpaced : Paced g := Course.paced ((c₀.trans c₁).trans c)
  obtain ⟨h', g', c', hnow, hall⟩ :=
    (c.beating hbeating hp hs hx config.millis_dvd_heartbeatInterval).exists_course hpaced hle
  refine ⟨h', g', c.trans c', hnow,
    List.forall_mem_append.mpr ⟨fun s hs => (hall s hs).punctual, hp⟩,
    List.forall_mem_append.mpr ⟨fun s hs => ?_, hs⟩,
    List.forall_mem_append.mpr ⟨fun s hs hne => ?_, hx⟩⟩
  · rcases (hall s hs).moves with hmove | ⟨t, hmove⟩
    · simp [hmove]
    · simp [hmove]
  · rw [(hall s hs).happenings_eq_nil hne]
    exact List.forall_mem_nil _

/-- Of a node that is started from a valid configuration, over the registry in memory that the
configuration asks for, and whose heartbeat is on time, two things hold until it is told to stop, if
nobody else touches its record. As long as the failed reports in a row are fewer than the liveness
multiplier, which has 32 bits, the address of the node is resolved. And if after a report that was
believed as many reports failed as the multiplier says, the address is not resolved once any time
has passed since the last of these, for as long as reports go on to fail and no other instance has
the address. -/
theorem Course.tolerates {N : Type} {network : N} {config : Config} {b : Cluster}
    {f₀ f g : Fleet (Faulty Cluster)} {h₀ h : List Scene} {id : InstanceId} {node : Node}
    (hvalid : config.validate = .ok ()) (hm : config.discovery.livenessMultiplier ≤ Text.max32)
    (hbackend : ConfiguredBackend.ofConfig config network = .ok (.memory b))
    (c₀ : Course { backend := { behind := b } } h₀ f₀)
    (hstart : Node.start f₀ id config.node.serviceName config.node.advertiseAddress
      config.heartbeatInterval = (.ok node, f))
    (c : Course f h g) (hp : ∀ s ∈ h, s.IsPunctual (.heartbeat node.heartbeat))
    (hs : ∀ s ∈ h, ∀ change, s.move ≠ .signalHeartbeat node.heartbeat change)
    (hx : ∀ s ∈ h, s.actor? ≠ some (.heartbeat node.heartbeat) →
      ∀ x ∈ s.happenings, ¬ x.Touches node.id node.service) :
    ((∀ fails, fails <:+: deeds h (.heartbeat node.heartbeat) →
        (∀ e ∈ fails, e.FailsToReport) → fails.length < config.discovery.livenessMultiplier) →
      g.Lists config.node.serviceName config.node.advertiseAddress) ∧
    ∀ later e fails success earlier,
      deeds h (.heartbeat node.heartbeat) = later ++ e :: (fails ++ success :: earlier) →
      (∀ e' ∈ later ++ e :: fails, e'.FailsToReport) → success.Reports →
      fails.length + 1 = config.discovery.livenessMultiplier → e.time < g.now →
      (∀ id' record, g.backend.record? config.node.serviceName id' = some record →
        record.address = config.node.advertiseAddress → id' = node.id) →
      ¬ g.Lists config.node.serviceName config.node.advertiseAddress := by
  have valid := Config.validate_eq_ok_iff.mp hvalid
  obtain rfl := ConfiguredBackend.eq_of_ofConfig_memory hbackend
  obtain ⟨h₁, c₁⟩ := exists_course_start hstart
  have whole := (c₀.trans c₁).trans c
  have hwindow : g.backend.behind.registry.window =
      config.heartbeatInterval * config.discovery.livenessMultiplier :=
    whole.window_eq.trans (valid.livenessWindow_eq hm)
  have hmillis := config.millis_dvd_heartbeatInterval
  obtain ⟨-, hservice, hbeating⟩ := beating_start hstart valid.shortestPeriod_le
  obtain ⟨due, last, -, hrecord, hnow, hbeats⟩ := (c.beating hbeating hp hs hx hmillis).beats
  rw [hservice] at hrecord
  rw [lists_iff (whole.records_unique Table.unique_empty), hwindow]
  constructor
  · intro hfew
    obtain ⟨fails, earlier, hdeeds, hall, hle⟩ := hbeats.due_le
      ((by decide : Duration.ofMillis 1 ≤ Heartbeat.shortestPeriod).trans valid.shortestPeriod_le)
    have hlt := hfew fails (hdeeds ▸ (List.prefix_append fails earlier).isInfix) hall
    refine ⟨node.id, _, hrecord, rfl, ?_⟩
    calc g.now ≤ Instant.ceilMilli due := hnow
      _ ≤ last + (fails.length + 1) * config.heartbeatInterval := hle
      _ ≤ last + config.heartbeatInterval * config.discovery.livenessMultiplier := by
        rw [Nat.mul_comm config.heartbeatInterval]
        exact Nat.add_le_add_left (Nat.mul_le_mul_right _ hlt) _
  · rintro later e fails success earlier hdeeds hall hok hcount hlater hother
      ⟨id', record, hr, haddress, hlive⟩
    obtain rfl := hother id' record hr haddress
    cases hr.symm.trans hrecord
    rw [hdeeds] at hbeats
    have htime := hbeats.time_eq (fun e' he' =>
      hall e' (List.mem_append_right _ (List.mem_cons_of_mem e he'))) hok
    rw [← List.cons_append, ← List.append_assoc] at hbeats
    have hlast := (hbeats.of_fails hall hok).1
    refine absurd hlive (not_le.mpr ?_)
    calc last + config.heartbeatInterval * config.discovery.livenessMultiplier
        = e.time := by rw [htime, hcount, hlast, Nat.mul_comm]
      _ < g.now := hlater

def twoBeats : Config := { discovery := { backend := .memory, livenessMultiplier := 2 } }

def watched : Fleet (Faulty Cluster) :=
  (Node.start (start twoBeats.memoryRegistry) ⟨"movie-1"⟩ "movie" "localhost:8083"
    (Duration.ofSecs 1)).2

def oneReportLost : List Move :=
  [.pass (Duration.ofSecs 2), .wake (.heartbeat 0), .pass (Duration.ofSecs 1),
    .inject ⟨.report, .unavailable "registry", 2⟩, .wake (.heartbeat 0)]

def twoReportsLost : List Move :=
  [.pass (Duration.ofMillis 2001), .wake (.heartbeat 0)] ++ oneReportLost

def lostReport (time : Nat) : Event :=
  ⟨time, .called (.report ⟨"movie-1"⟩ "movie") (.error (.unavailable "registry"))⟩

/-- The address is still resolved when the third report is due, and no longer a millisecond after it
has failed. -/
theorem resolved_after_one_lost_not_two :
    (watched.afterAll oneReportLost).Lists "movie" "localhost:8083" ∧
      ¬ (watched.afterAll twoReportsLost).Lists "movie" "localhost:8083" := by
  have hvalid : twoBeats.validate = .ok () := by decide +kernel
  have hbackend : ConfiguredBackend.ofConfig twoBeats () =
      .ok (.memory { registry := twoBeats.memoryRegistry }) := rfl
  have hstart : Node.start (start twoBeats.memoryRegistry) ⟨"movie-1"⟩
      twoBeats.node.serviceName twoBeats.node.advertiseAddress twoBeats.heartbeatInterval =
        (.ok ⟨⟨"movie-1"⟩, "movie", 0⟩, watched) := rfl
  have c := course_scenes watched oneReportLost (by decide +kernel)
  have c' := course_scenes watched twoReportsLost (by decide +kernel)
  have hp : ∀ s ∈ watched.scenes twoReportsLost, s.IsPunctual (.heartbeat 0) := by decide +kernel
  have hs : ∀ s ∈ watched.scenes twoReportsLost, ∀ change, s.move ≠ .signalHeartbeat 0 change := by
    simp [twoReportsLost, oneReportLost, scenes]
  have hquiet : ∀ s ∈ watched.scenes twoReportsLost, s.actor? ≠ some (.heartbeat 0) →
      s.happenings = [] := by
    decide +kernel
  have hx : ∀ s ∈ watched.scenes twoReportsLost, s.actor? ≠ some (.heartbeat 0) →
      ∀ x ∈ s.happenings, ¬ x.Touches ⟨"movie-1"⟩ "movie" := by
    intro s hs ha x hx
    rw [hquiet s hs ha] at hx
    cases hx
  have hfirst : ∀ s ∈ watched.scenes oneReportLost, s ∈ watched.scenes twoReportsLost :=
    fun s hs => List.mem_append_right [_, _] hs
  have hdeeds : deeds (watched.scenes oneReportLost) (.heartbeat 0) =
      [lostReport (Duration.ofSecs 1), ⟨0, .called (.report ⟨"movie-1"⟩ "movie") (.ok ())⟩] := rfl
  have hdeeds' : deeds (watched.scenes twoReportsLost) (.heartbeat 0) =
      [lostReport (Duration.ofSecs 2), lostReport (Duration.ofSecs 1),
        ⟨0, .called (.report ⟨"movie-1"⟩ "movie") (.ok ())⟩] := rfl
  have hrecords : (watched.afterAll twoReportsLost).backend.behind.registry.records =
      ⟨[(("movie", ⟨"movie-1"⟩), ⟨"localhost:8083", 0⟩)]⟩ := rfl
  have hfew : ∀ fails, fails <:+: deeds (watched.scenes oneReportLost) (.heartbeat 0) →
      (∀ e ∈ fails, e.FailsToReport) → fails.length < 2 := by
    intro fails hinfix hall
    by_contra hle
    rw [hdeeds] at hinfix
    obtain rfl := hinfix.eq_of_length_le (not_lt.mp hle)
    exact Event.Reports.not_fails ⟨_, _, rfl⟩ (hall _ (List.mem_cons_of_mem _ List.mem_cons_self))
  have hfails : ∀ e' ∈ [lostReport (Duration.ofSecs 2), lostReport (Duration.ofSecs 1)],
      e'.FailsToReport := by
    simp [lostReport, Event.FailsToReport]
  have halone : ∀ id' record,
      (watched.afterAll twoReportsLost).backend.record? "movie" id' = some record →
      record.address = "localhost:8083" → id' = ⟨"movie-1"⟩ := by
    intro id' record hr _
    have hmem := Table.mem_entries_of_get? hr
    simp only [hrecords, List.mem_singleton, Prod.mk.injEq, true_and] at hmem
    exact hmem.1
  constructor
  · exact (Course.tolerates hvalid (by decide) hbackend .stay hstart c
      (fun s hs => hp s (hfirst s hs)) (fun s hs' => hs s (hfirst s hs'))
      (fun s hs => hx s (hfirst s hs))).1 hfew
  · exact (Course.tolerates hvalid (by decide) hbackend .stay hstart c' hp hs hx).2
      [] _ [_] _ [] hdeeds' hfails ⟨_, _, rfl⟩ rfl (by decide +kernel) halone

end Fleet

end Rollcall
