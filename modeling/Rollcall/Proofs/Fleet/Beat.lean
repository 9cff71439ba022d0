import Rollcall.Fleet.Node
import Rollcall.Proofs.Fleet.Punctual
import Rollcall.Proofs.Fleet.Roster
import Rollcall.Proofs.Registry.Record

/-!
# Reports of a heartbeat that is on time

A heartbeat reports once in a period, the first time in the millisecond in which its node starts,
and goes on whatever becomes of its reports. So the latest sign of life is as many periods old as
reports have failed since, and older by the time that has passed since the last of these.
-/

namespace Rollcall

/-- A report that was answered with an error. -/
def Event.FailsToReport (e : Event) : Prop :=
  ∃ id service error, e.happening = .called (.report id service) (.error error)

def Event.Reports (e : Event) : Prop :=
  ∃ id service, e.happening = .called (.report id service) (.ok ())

theorem Event.Reports.not_fails {e : Event} (h : e.Reports) : ¬ e.FailsToReport := by
  obtain ⟨id, service, heq⟩ := h
  rintro ⟨id', service', error, heq'⟩
  cases heq.symm.trans heq'

/-- The reports since a registration, the latest first, each a period after the one before: when the
next one is to be made, and when the latest sign of life was given. -/
inductive Beats (period since : Nat) : (due last : Nat) → List Event → Prop
  | registered : Beats period since (Instant.ceilMilli since) since []
  | failed {due last l e} (h : Beats period since due last l) (ht : e.time = due)
      (he : e.FailsToReport) : Beats period since (due + period) last (e :: l)
  | reported {due last l e} (h : Beats period since due last l) (ht : e.time = due)
      (he : e.Reports) : Beats period since (due + period) due (e :: l)

namespace Beats

variable {period since due last : Nat} {l fails earlier later : List Event} {e success : Event}

/-- The next report is due one period after the latest sign of life, and one more for each report
that has failed since. -/
theorem due_le (h : Beats period since due last l) (hp : Duration.ofMillis 1 ≤ period) :
    ∃ fails earlier, l = fails ++ earlier ∧ (∀ e ∈ fails, e.FailsToReport) ∧
      due ≤ last + (fails.length + 1) * period := by
  induction h with
  | registered =>
    have hlt := Instant.ceilMilli_lt since
    refine ⟨[], [], rfl, by simp, ?_⟩
    simp only [List.length_nil, Nat.zero_add, Nat.one_mul]
    omega
  | @failed due last l e h ht he ih =>
    obtain ⟨fails, earlier, rfl, hall, hle⟩ := ih
    refine ⟨e :: fails, earlier, rfl, List.forall_mem_cons.mpr ⟨he, hall⟩, ?_⟩
    rw [List.length_cons, Nat.succ_mul (fails.length + 1)]
    omega
  | reported h ht he => exact ⟨[], _, rfl, by simp, by simp⟩

theorem of_fails (h : Beats period since due last (fails ++ success :: earlier))
    (hf : ∀ e ∈ fails, e.FailsToReport) (hs : success.Reports) :
    last = success.time ∧ due = success.time + (fails.length + 1) * period := by
  induction fails generalizing due with
  | nil =>
    cases h with
    | failed h ht he => exact absurd he hs.not_fails
    | reported h ht he => exact ⟨ht.symm, by simp [ht]⟩
  | cons e fails ih =>
    rw [List.forall_mem_cons] at hf
    cases h with
    | failed h ht he =>
      obtain ⟨hlast, hdue⟩ := ih h hf.2
      refine ⟨hlast, ?_⟩
      rw [List.length_cons, Nat.succ_mul (fails.length + 1)]
      omega
    | reported h ht he => exact absurd hf.1 he.not_fails

theorem drop (h : Beats period since due last (later ++ l)) :
    ∃ due last, Beats period since due last l := by
  induction later generalizing due last with
  | nil => exact ⟨due, last, h⟩
  | cons e later ih =>
    cases h with
    | failed h => exact ih h
    | reported h => exact ih h

theorem time_eq (h : Beats period since due last (later ++ e :: (fails ++ success :: earlier)))
    (hf : ∀ e ∈ fails, e.FailsToReport) (hs : success.Reports) :
    e.time = success.time + (fails.length + 1) * period := by
  obtain ⟨due', last', h'⟩ := h.drop
  cases h' with
  | failed h' ht => exact ht.trans (h'.of_fails hf hs).2
  | reported h' ht => exact ht.trans (h'.of_fails hf hs).2

end Beats

namespace Fleet

variable {f g : Fleet (Faulty Cluster)} {h : List Scene} {s : Scene} {n : Nat} {beat : Heartbeat}

theorem mem_duties_heartbeat {due : Nat} (hb : f.heartbeats.get? n = some beat)
    (hdue : beat.due = some due) : (due, .heartbeat n) ∈ f.duties := by
  refine List.mem_append_left _ (List.mem_append_left _ (List.mem_filterMap.mpr ?_))
  refine ⟨(n, beat), Table.mem_entries_of_get? hb, ?_⟩
  simp only [hdue, Option.map_some]

theorem Scene.move_of_actor_heartbeat (ha : s.actor? = some (.heartbeat n)) :
    s.move = .wake (.heartbeat n) := by
  obtain ⟨f, m⟩ := s
  cases m with
  | wake m =>
    cases ha
    rfl
  | _ => cases ha

theorem wake_heartbeat_of_due (hb : f.heartbeats.get? n = some beat) (hended : beat.ended = false)
    (hvalue : beat.signal.value = false) (hdue : beat.ticker.due ≤ f.now) :
    f.wake (.heartbeat n) =
      { (f.perform beat.call).2 with
        heartbeats := f.heartbeats.put n { beat with ticker := beat.ticker.advance f.now } } := by
  simp only [Fleet.wake, hb, Heartbeat.wake, hended, hvalue, hdue, Bool.false_eq_true, if_true,
    if_false]
  rfl

theorem wake_heartbeat_of_not_due (hb : f.heartbeats.get? n = some beat)
    (hended : beat.ended = false) (hsignal : beat.signal = {}) (hdue : ¬ beat.ticker.due ≤ f.now) :
    f.wake (.heartbeat n) = { f with heartbeats := f.heartbeats.put n beat } := by
  simp only [Fleet.wake, hb, Heartbeat.wake, hended, hsignal, hdue, Bool.false_eq_true, if_false]

theorem Scene.report_of_due (hmove : s.move = .wake (.heartbeat n))
    (hb : s.before.heartbeats.get? n = some beat) (hended : beat.ended = false)
    (hvalue : beat.signal.value = false) (hdue : beat.ticker.due ≤ s.before.now) :
    s.events = [⟨s.before.now, .called beat.call (s.before.perform beat.call).1⟩] ∧
    s.after.backend = (s.before.perform beat.call).2.backend ∧ s.after.now = s.before.now ∧
    s.after.heartbeats.get? n =
      some { beat with ticker := beat.ticker.advance s.before.now } := by
  have hafter : s.after = s.before.wake (.heartbeat n) := by
    rw [Scene.after, hmove]
    rfl
  rw [wake_heartbeat_of_due hb hended hvalue hdue] at hafter
  refine ⟨Scene.events_of_acts (acts_perform s.before beat.call) (by rw [hafter]), ?_⟩
  rw [hafter]
  exact ⟨rfl, rfl, (Table.get?_put _ _ _ _).trans (if_pos rfl)⟩

/-- The node's heartbeat is on time, and its record tells the latest sign of life that came of
it. -/
structure Beating (h : List Scene) (f : Fleet (Faulty Cluster)) (node : Node) (address : String)
    (period since : Nat) : Prop where
  lt_admitted : node.heartbeat < f.admitted
  beats : ∃ due last,
    f.heartbeats.get? node.heartbeat =
      some { id := node.id, service := node.service, ticker := ⟨period, due⟩, signal := {} } ∧
    f.backend.record? node.service node.id = some ⟨address, last⟩ ∧
    f.now ≤ Instant.ceilMilli due ∧
    Beats period since (Instant.ceilMilli due) last (deeds h (.heartbeat node.heartbeat))

variable {node : Node} {address : String} {period since : Nat}

theorem beating_start {id : InstanceId} {service : String} {interval : Nat}
    (hstart : Node.start f id service address interval = (.ok node, g))
    (hi : Heartbeat.shortestPeriod ≤ interval) :
    node.id = id ∧ node.service = service ∧ Beating [] g node address interval f.now := by
  unfold Node.start at hstart
  split at hstart
  · cases hstart
  · next u f' hperform =>
    cases hstart
    have hf : f' = (f.perform (.register id service address)).2 := by rw [hperform]
    have hok : (f.perform (.register id service address)).1 = .ok () := by rw [hperform]
    subst hf
    refine ⟨rfl, rfl, Nat.lt_succ_self _, f.now, f.now, ?_, ?_, Instant.le_ceilMilli _,
      .registered⟩
    · refine (Table.get?_put _ _ _ _).trans ((if_pos rfl).trans ?_)
      simp only [Heartbeat.start, max_eq_left hi]
      rfl
    · exact Faulty.record?_of_registered hok

/-- Others neither touch the record nor get in the way of the heartbeat. -/
theorem Beating.stay (hb : Beating h s.before node address period since)
    (hp : s.IsPunctual (.heartbeat node.heartbeat))
    (ha : s.actor? ≠ some (.heartbeat node.heartbeat))
    (hs : ∀ change, s.move ≠ .signalHeartbeat node.heartbeat change)
    (hx : ∀ x ∈ s.happenings, ¬ x.Touches node.id node.service) :
    Beating (s :: h) s.after node address period since := by
  obtain ⟨due, last, hbeat, hrecord, hnow, hbeats⟩ := hb.beats
  refine ⟨hb.lt_admitted.trans_le s.admitted_le, due, last, ?_, ?_, ?_, ?_⟩
  · rw [Scene.get?_heartbeats hb.lt_admitted.ne ha hs, hbeat]
  · obtain ⟨b, hundergoes, hbehind, -⟩ := s.undergoes
    rw [← hrecord, ← hundergoes.record?_eq hx, Faulty.record?, Faulty.record?, hbehind]
  · rcases s.now_cases with heq | hpass
    · rw [heq]
      exact hnow
    · exact (hp.le_of_pass hpass (mem_duties_heartbeat hbeat rfl)).trans (max_le hnow le_rfl)
  · rw [deeds_cons_of_ne ha]
    exact hbeats

/-- A report leaves the grid where it is, and counts as a sign of life if it is believed. -/
theorem Beating.report (hb : Beating h s.before node address period since)
    (hp : s.IsPunctual (.heartbeat node.heartbeat))
    (hmove : s.move = .wake (.heartbeat node.heartbeat)) (hperiod : Duration.ofMillis 1 ∣ period) :
    Beating (s :: h) s.after node address period since := by
  obtain ⟨due, last, hbeat, hrecord, hnow, hbeats⟩ := hb.beats
  have ha : s.actor? = some (.heartbeat node.heartbeat) := by rw [Scene.actor?, hmove]
  refine ⟨hb.lt_admitted.trans_le s.admitted_le, ?_⟩
  rw [deeds_cons_of_actor ha]
  by_cases hdue : due ≤ s.before.now
  · have htime : s.before.now = Instant.ceilMilli due :=
      Instant.eq_ceilMilli (hp.millis ha) hdue hnow
    obtain ⟨hevents, hbackend, hnow', hbeat'⟩ := Scene.report_of_due hmove hbeat rfl rfl hdue
    rw [Ticker.advance_of_le (t := ⟨period, due⟩) hnow] at hbeat'
    rw [hevents, hbackend, hnow']
    have hnext : s.before.now ≤ Instant.ceilMilli (due + period) :=
      hnow.trans (ceilMilli_mono (Nat.le_add_right _ _))
    have hgrid := Instant.ceilMilli_add due hperiod
    rcases hr : (s.before.perform (.report node.id node.service)).1 with error | u
    · refine ⟨due + period, last, hbeat', ?_, hnext, ?_⟩
      · exact (Faulty.record?_of_not_reported hr).trans hrecord
      · rw [hgrid]
        exact hbeats.failed htime ⟨_, _, error, congrArg (Happening.called _) hr⟩
    · obtain ⟨record, hold, hnew⟩ := Faulty.record?_of_reported hr
      cases hold.symm.trans hrecord
      refine ⟨due + period, Instant.ceilMilli due, hbeat', htime ▸ hnew, hnext, ?_⟩
      rw [hgrid]
      exact hbeats.reported htime ⟨_, _, congrArg (Happening.called _) hr⟩
  · have hafter : s.after = s.before.wake (.heartbeat node.heartbeat) := by
      rw [Scene.after, hmove]
      rfl
    rw [wake_heartbeat_of_not_due hbeat rfl rfl hdue] at hafter
    have hevents : s.events = [] :=
      Scene.events_of_acts (.refl s.before) (by rw [hafter])
    rw [hevents, hafter]
    exact ⟨due, last, (Table.get?_put _ _ _ _).trans (if_pos rfl), hrecord, hnow, hbeats⟩

theorem Course.beating (c : Course f h g) (hb : Beating [] f node address period since)
    (hp : ∀ s ∈ h, s.IsPunctual (.heartbeat node.heartbeat))
    (hs : ∀ s ∈ h, ∀ change, s.move ≠ .signalHeartbeat node.heartbeat change)
    (hx : ∀ s ∈ h, s.actor? ≠ some (.heartbeat node.heartbeat) →
      ∀ x ∈ s.happenings, ¬ x.Touches node.id node.service)
    (hperiod : Duration.ofMillis 1 ∣ period) : Beating h g node address period since := by
  induction c with
  | stay => exact hb
  | @go h g c m hm ih =>
    rw [List.forall_mem_cons] at hp hs hx
    have before := ih hp.2 hs.2 hx.2
    by_cases ha : (Scene.mk g m).actor? = some (.heartbeat node.heartbeat)
    · exact before.report hp.1 (Scene.move_of_actor_heartbeat ha) hperiod
    · exact before.stay hp.1 ha hs.1 (hx.1 ha)

end Fleet

end Rollcall
