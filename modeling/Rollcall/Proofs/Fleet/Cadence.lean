import Rollcall.Proofs.Fleet.Settling
import Rollcall.Proofs.Ticker

/-!
# The cadence of a heartbeat

When a heartbeat reports depends on the clock and on its end, and on nothing else. Wherever the
clock stops, the heartbeat reports once if a tick is due by then, so that two reports are a period
apart, up to what a tick may be late, and a leap over many periods is followed by one report. What
comes of the reports and what is sent that does not call the heartbeat off make no difference, and
it ends if and only if it is woken when it has been called off.
-/

namespace Rollcall

namespace Heartbeat

variable {beat : Heartbeat} {now : ℕ}

/-- It has been told to end, or nobody is left to tell it anything. -/
def IsCalledOff (beat : Heartbeat) : Prop :=
  beat.signal.value = true ∨ beat.signal.isDropped = true

theorem wake_of_going (hended : (beat.wake now).next.ended = false) :
    (beat.ticker.due ≤ now ∧
      (beat.wake now).report = true ∧ (beat.wake now).next.ticker = beat.ticker.advance now) ∨
    ((beat.wake now).report = false ∧ (beat.wake now).next.ticker = beat.ticker) := by
  unfold wake at *
  split_ifs at * <;> simp_all

theorem wake_of_ending (hended : beat.ended = false) (hnext : (beat.wake now).next.ended = true) :
    beat.IsCalledOff ∧ (beat.wake now).report = false ∧
      (beat.wake now).next.ticker = beat.ticker := by
  unfold IsCalledOff
  unfold wake at *
  split_ifs at * <;> simp_all

theorem wake_of_ended (hended : beat.ended = true) : beat.wake now = ⟨false, beat⟩ := if_pos hended

theorem wake_of_isCalledOff (h : beat.IsCalledOff) :
    (beat.wake now).next.ended = true ∨ (beat.wake now).next.signal.isDropped = true := by
  unfold IsCalledOff at h
  unfold wake Signal.look
  split_ifs <;> simp_all

theorem isDropped_next_wake (beat : Heartbeat) (now : ℕ) :
    (beat.wake now).next.signal.isDropped = beat.signal.isDropped := by
  unfold wake Signal.look
  split_ifs <;> rfl

end Heartbeat

namespace Fleet

variable {f g : Fleet (Faulty Cluster)} {h : List Scene} {s : Scene} {n : ℕ}
  {beat beat' : Heartbeat}

def IsIdle (f : Fleet (Faulty Cluster)) (m : Member) : Prop :=
  ∀ d ∈ f.duties, d.2 = m → f.now < d.1

instance (f : Fleet (Faulty Cluster)) (m : Member) : Decidable (f.IsIdle m) :=
  inferInstanceAs (Decidable (∀ d ∈ f.duties, d.2 = m → f.now < d.1))

/-- The clock goes on, or leaps, only when the member has nothing to do. -/
def Move.Awaits (f : Fleet (Faulty Cluster)) (m : Member) : Move → Prop
  | .pass _ => f.IsIdle m
  | _ => True

instance (f : Fleet (Faulty Cluster)) (m : Member) (move : Move) : Decidable (move.Awaits f m) :=
  match move with
  | .pass _ => inferInstanceAs (Decidable (f.IsIdle m))
  | .wake _ | .inject _ | .call _ | .startHeartbeat .. | .signalHeartbeat .. | .openLock _
  | .dropLock _ | .closeLock _ | .startWorker .. | .signalWorker .. | .dismissWorker _ =>
    .isTrue trivial

/-- A course in which the clock waits for a heartbeat, whose owner sends it values and may let go
of it. -/
structure Attends (n : ℕ) (f : Fleet (Faulty Cluster)) (h : List Scene)
    (g : Fleet (Faulty Cluster)) : Prop where
  course : Course f h g
  awaits : ∀ s ∈ h, s.move.Awaits s.before (.heartbeat n)
  signals : ∀ s ∈ h, ∀ change, s.move = .signalHeartbeat n change →
    change = Signal.dropOwner ∨ ∃ value, change = (Signal.send · value)

/-- The instants at which the clock has stopped, the latest first. -/
def instants (since : ℕ) : List Scene → List ℕ
  | [] => [since]
  | s :: h => match s.move with
    | .pass target => target :: instants since h
    | _ => instants since h

/-- When a heartbeat has reported, the latest first. -/
def reportTimes (h : List Scene) (n : ℕ) : List ℕ := (deeds h (.heartbeat n)).map Event.time

/-- The heartbeat has been called off. -/
def HasCalledOff (f : Fleet (Faulty Cluster)) (n : ℕ) : Prop :=
  ∃ beat, f.heartbeats.get? n = some beat ∧ beat.IsCalledOff

def Scene.Notices (s : Scene) (n : ℕ) : Prop :=
  s.move = .wake (.heartbeat n) ∧ s.before.HasCalledOff n

theorem getLast?_instants (since : ℕ) (h : List Scene) :
    (instants since h).getLast? = some since := by
  induction h with
  | nil => rfl
  | cons s h ih =>
    rw [instants]
    split
    · rw [List.getLast?_cons, ih, Option.getD_some]
    · exact ih

theorem instants_cons_of_pass {target : ℕ} (hm : s.move = .pass target) (since : ℕ)
    (h : List Scene) : instants since (s :: h) = target :: instants since h := by
  simp only [instants, hm]

theorem instants_cons_of_ne (hm : ∀ target, s.move ≠ .pass target) (since : ℕ) (h : List Scene) :
    instants since (s :: h) = instants since h := by
  rw [instants]
  split
  · next target heq => exact absurd heq (hm target)
  · rfl

theorem Course.exists_instants (c : Course f h g) : ∃ l, instants f.now h = g.now :: l := by
  induction c with
  | stay => exact ⟨[], rfl⟩
  | @go h g c m hm ih =>
    obtain ⟨l, hl⟩ := ih
    by_cases hpass : ∃ target, m = .pass target
    · obtain ⟨target, rfl⟩ := hpass
      exact ⟨_, instants_cons_of_pass (s := ⟨g, .pass target⟩) rfl f.now h⟩
    · have hne : ∀ target, (Scene.mk g m).move ≠ .pass target := not_exists.mp hpass
      have hnow := (Scene.now_cases ⟨g, m⟩).resolve_right (hne _)
      exact ⟨l, by rw [instants_cons_of_ne hne, hl]; exact congrArg (· :: l) hnow.symm⟩

inductive Scene.Treats (s : Scene) (n : ℕ) (beat : Heartbeat) : Heartbeat → Prop
  | woken (hm : s.move = .wake (.heartbeat n)) {r : beat.call.Outcome}
      (he : s.events = if (beat.wake s.before.now).report = true then
        [⟨s.before.now, .called beat.call r⟩] else []) :
      Treats s n beat (beat.wake s.before.now).next
  | signalled {change : Signal → Signal} (hm : s.move = .signalHeartbeat n change) :
      Treats s n beat { beat with signal := change beat.signal }
  | spared (ha : s.actor? ≠ some (.heartbeat n))
      (hs : ∀ change, s.move ≠ .signalHeartbeat n change) : Treats s n beat beat

theorem Scene.exists_treats (hn : n < s.before.admitted)
    (hb : s.before.heartbeats.get? n = some beat) :
    ∃ beat', s.after.heartbeats.get? n = some beat' ∧ s.Treats n beat beat' := by
  by_cases ha : s.actor? = some (.heartbeat n)
  · have hmove := move_of_actor_heartbeat ha
    have hafter : s.after = s.before.wake (.heartbeat n) := by rw [after, hmove]; rfl
    refine ⟨_, ?_, .woken hmove (r := (s.before.perform beat.call).1) ?_⟩
    · rw [hafter, heartbeats_wake_heartbeat hb]
      exact (Table.get?_put _ _ _ _).trans (if_pos rfl)
    · split_ifs with hreport
      · apply events_of_acts (acts_perform s.before beat.call)
        rw [hafter]
        simp only [Fleet.wake, hb, hreport, if_true]
      · apply events_of_acts (.refl s.before)
        rw [hafter]
        simp only [Fleet.wake, hb, hreport]
        rfl
  · by_cases hs : ∃ change, s.move = .signalHeartbeat n change
    · obtain ⟨change, hmove⟩ := hs
      refine ⟨_, ?_, .signalled hmove⟩
      rw [after, hmove]
      change (s.before.signalHeartbeat n change).heartbeats.get? n = _
      simp only [signalHeartbeat, hb, Table.get?_put, if_true]
    · refine ⟨beat, ?_, .spared ha (not_exists.mp hs)⟩
      rw [get?_heartbeats hn.ne ha (not_exists.mp hs), hb]

theorem heartbeatIsOver_eq (hb : f.heartbeats.get? n = some beat) :
    f.heartbeatIsOver n = beat.ended := by
  unfold heartbeatIsOver
  rw [hb]

/-- An idle heartbeat that goes on waits for its tick, and has not been called off. -/
theorem IsIdle.waits (hi : f.IsIdle (.heartbeat n)) (hb : f.heartbeats.get? n = some beat)
    (hended : beat.ended = false) : f.now < beat.ticker.due ∧ ¬ beat.IsCalledOff := by
  unfold Heartbeat.IsCalledOff
  by_cases hnotice : beat.signal.value = true ∨ beat.signal.stirs = true
  · have hdue : beat.due = some 0 := by simp [Heartbeat.due, hended, hnotice]
    exact absurd (hi _ (mem_duties_heartbeat hb hdue) rfl) (Nat.not_lt_zero _)
  · have hdue : beat.due = some beat.ticker.due := by simp [Heartbeat.due, hended, hnotice]
    refine ⟨hi _ (mem_duties_heartbeat hb hdue) rfl, ?_⟩
    intro hoff
    apply hnotice
    rcases hoff with hvalue | hdropped
    · exact .inl hvalue
    · exact .inr (by simp [Signal.stirs, hdropped])

theorem reportTimes_cons_of_actor (ha : s.actor? = some (.heartbeat n)) (h : List Scene) :
    reportTimes (s :: h) n = s.events.map Event.time ++ reportTimes h n := by
  unfold reportTimes
  rw [deeds_cons_of_actor ha, List.map_append]

theorem reportTimes_cons_of_ne (ha : s.actor? ≠ some (.heartbeat n)) (h : List Scene) :
    reportTimes (s :: h) n = reportTimes h n := by
  unfold reportTimes
  rw [deeds_cons_of_ne ha]

/-- The heartbeat has reported wherever a tick was due, up to now or up to its end. -/
structure Serving (first : Heartbeat) (n since : ℕ) (h : List Scene)
    (g : Fleet (Faulty Cluster)) : Prop where
  lt_admitted : n < g.admitted
  exists_heartbeat : ∃ beat earlier, g.heartbeats.get? n = some beat ∧ beat.call = first.call ∧
    first.ticker.Serves (instants since earlier) beat.ticker (reportTimes h n) ∧
    (beat.ended = false → earlier = h) ∧
    (beat.ended = true → ∃ later s, h = later ++ s :: earlier ∧ s.Notices n)
  reports : ∀ e ∈ deeds h (.heartbeat n), ∃ r, e.happening = .called first.call r

variable {first : Heartbeat} {since : ℕ}

theorem Scene.Treats.of_ended (ht : s.Treats n beat beat') (hended : beat.ended = true)
    (h : List Scene) : beat'.ended = true ∧ beat'.ticker = beat.ticker ∧ beat'.call = beat.call ∧
      deeds (s :: h) (.heartbeat n) = deeds h (.heartbeat n) := by
  cases ht with
  | woken hm he =>
    have hquiet : beat.wake s.before.now = ⟨false, beat⟩ := beat.wake_of_ended hended
    rw [hquiet] at he ⊢
    refine ⟨hended, rfl, rfl, ?_⟩
    rw [deeds_cons_of_actor (by rw [actor?, hm]), he]
    rfl
  | signalled hm =>
    refine ⟨hended, rfl, rfl, ?_⟩
    exact deeds_cons_of_ne (by simp [actor?, hm]) h
  | spared ha hs => exact ⟨hended, rfl, rfl, deeds_cons_of_ne ha h⟩

theorem Serving.after_of_ended (hs : Serving first n since h s.before)
    (ho : s.before.heartbeatIsOver n = true) : Serving first n since (s :: h) s.after := by
  obtain ⟨beat, earlier, hb, hcall, hserves, -, hends⟩ := hs.exists_heartbeat
  obtain ⟨beat', hb', ht⟩ := Scene.exists_treats hs.lt_admitted hb
  rw [heartbeatIsOver_eq hb] at ho
  obtain ⟨hended, hticker, hcall', hdeeds⟩ := ht.of_ended ho h
  obtain ⟨later, s', rfl, hnotices⟩ := hends ho
  refine ⟨hs.lt_admitted.trans_le s.admitted_le,
    ⟨beat', earlier, hb', hcall'.trans hcall, ?_, ?_, fun _ => ⟨s :: later, s', rfl, hnotices⟩⟩, ?_⟩
  · unfold reportTimes at *
    rwa [hdeeds, hticker]
  · intro hgoes
    cases hended.symm.trans hgoes
  · rw [hdeeds]
    exact hs.reports

theorem Serving.after_of_woken (hs : Serving first n since h s.before)
    (ho : s.before.heartbeatIsOver n = false) (hp : Ticker.slack < first.ticker.period)
    (hl : ∃ l, instants since h = s.before.now :: l) (hm : s.move = .wake (.heartbeat n)) :
    Serving first n since (s :: h) s.after := by
  obtain ⟨beat, earlier, hb, hcall, hserves, hgoes, -⟩ := hs.exists_heartbeat
  obtain ⟨beat', hb', ht⟩ := Scene.exists_treats hs.lt_admitted hb
  rw [heartbeatIsOver_eq hb] at ho
  obtain rfl := hgoes ho
  obtain ⟨l, hl⟩ := hl
  have ha : s.actor? = some (.heartbeat n) := by rw [Scene.actor?, hm]
  have hinstants : instants since (s :: earlier) = s.before.now :: l := by
    rw [instants_cons_of_ne (by simp [hm]), hl]
  rw [hl] at hserves
  cases ht with
  | signalled hm' => cases hm.symm.trans hm'
  | spared ha' => exact absurd ha ha'
  | @woken _ r he =>
    have hadmitted := hs.lt_admitted.trans_le s.admitted_le
    cases hnext : (beat.wake s.before.now).next.ended with
    | true =>
      obtain ⟨hoff, hreport, hticker⟩ := Heartbeat.wake_of_ending ho hnext
      rw [hreport] at he
      refine ⟨hadmitted, ⟨_, earlier, hb', ?_, ?_, ?_, fun _ => ?_⟩, ?_⟩
      · rw [Heartbeat.call_next_wake, hcall]
      · rw [reportTimes_cons_of_actor ha, he, hticker, hl]
        exact hserves
      · intro hgoes
        cases hnext.symm.trans hgoes
      · exact ⟨[], s, rfl, hm, beat, hb, hoff⟩
      · rw [deeds_cons_of_actor ha, he]
        exact hs.reports
    | false =>
      have hcall' := (Heartbeat.call_next_wake beat s.before.now).trans hcall
      have hgoes : (beat.wake s.before.now).next.ended = true → ∃ later s',
          s :: earlier = later ++ s' :: s :: earlier ∧ s'.Notices n := by
        intro hended
        cases hended.symm.trans hnext
      rcases Heartbeat.wake_of_going hnext with ⟨hdue, hreport, hticker⟩ | ⟨hreport, hticker⟩
      · -- the tick is due
        rw [hreport, if_pos rfl] at he
        refine ⟨hadmitted, ⟨_, s :: earlier, hb', hcall', ?_, fun _ => rfl, hgoes⟩, ?_⟩
        · rw [reportTimes_cons_of_actor ha, he, hticker, hinstants]
          exact hserves.tick hp hdue
        · rw [deeds_cons_of_actor ha, he]
          refine List.forall_mem_cons.mpr ⟨?_, hs.reports⟩
          rw [← hcall]
          exact ⟨r, rfl⟩
      · -- there was something else to notice
        rw [hreport] at he
        refine ⟨hadmitted, ⟨_, s :: earlier, hb', hcall', ?_, fun _ => rfl, hgoes⟩, ?_⟩
        · rw [reportTimes_cons_of_actor ha, he, hticker, hinstants]
          exact hserves
        · rw [deeds_cons_of_actor ha, he]
          exact hs.reports

theorem Serving.after_of_ne (hs : Serving first n since h s.before)
    (ho : s.before.heartbeatIsOver n = false) (hawaits : s.move.Awaits s.before (.heartbeat n))
    (hl : ∃ l, instants since h = s.before.now :: l) (hm : s.move ≠ .wake (.heartbeat n)) :
    Serving first n since (s :: h) s.after := by
  obtain ⟨beat, earlier, hb, hcall, hserves, hgoes, -⟩ := hs.exists_heartbeat
  obtain ⟨beat', hb', ht⟩ := Scene.exists_treats hs.lt_admitted hb
  rw [heartbeatIsOver_eq hb] at ho
  obtain rfl := hgoes ho
  obtain ⟨l, hl⟩ := hl
  have ha : s.actor? ≠ some (.heartbeat n) := fun ha => hm (Scene.move_of_actor_heartbeat ha)
  have hkeeps : beat'.call = beat.call ∧ beat'.ticker = beat.ticker ∧ beat'.ended = false := by
    cases ht with
    | woken hm' => exact absurd hm' hm
    | signalled => exact ⟨rfl, rfl, ho⟩
    | spared => exact ⟨rfl, rfl, ho⟩
  obtain ⟨hcall', hticker, hended⟩ := hkeeps
  refine ⟨hs.lt_admitted.trans_le s.admitted_le,
    ⟨beat', s :: earlier, hb', hcall'.trans hcall, ?_, fun _ => rfl, ?_⟩, ?_⟩
  · rw [reportTimes_cons_of_ne ha, hticker]
    by_cases hpass : ∃ target, s.move = .pass target
    · obtain ⟨target, hmove⟩ := hpass
      rw [hmove] at hawaits
      rw [hl] at hserves
      rw [instants_cons_of_pass hmove, hl]
      exact hserves.pass (IsIdle.waits hawaits hb ho).1
    · rwa [instants_cons_of_ne (not_exists.mp hpass)]
  · intro hover
    cases hended.symm.trans hover
  · rw [deeds_cons_of_ne ha]
    exact hs.reports

theorem Attends.serving (hf : Serving first n f.now [] f) (a : Attends n f h g)
    (hp : Ticker.slack < first.ticker.period) : Serving first n f.now h g := by
  obtain ⟨c, hawaits, -⟩ := a
  induction c with
  | stay => exact hf
  | @go h g c m hm ih =>
    rw [List.forall_mem_cons] at hawaits
    have hserving := ih hawaits.2
    cases ho : g.heartbeatIsOver n with
    | true => exact Serving.after_of_ended (s := ⟨g, m⟩) hserving ho
    | false =>
      by_cases hwake : m = .wake (.heartbeat n)
      · exact Serving.after_of_woken (s := ⟨g, m⟩) hserving ho hp c.exists_instants hwake
      · exact Serving.after_of_ne (s := ⟨g, m⟩) hserving ho hawaits.1 c.exists_instants hwake

/-- What is kept when a heartbeat is woken and signalled holds of it ever after. -/
theorem Course.heartbeat_of (P : Heartbeat → Prop) (hn : n < f.admitted)
    (hb : ∃ beat, f.heartbeats.get? n = some beat ∧ P beat) (c : Course f h g)
    (hwake : ∀ beat now, P beat → P (beat.wake now).next)
    (hchange : ∀ s ∈ h, ∀ change, s.move = .signalHeartbeat n change →
      ∀ beat, P beat → P { beat with signal := change beat.signal }) :
    ∃ beat, g.heartbeats.get? n = some beat ∧ P beat := by
  induction c with
  | stay => exact hb
  | @go h g c m hm ih =>
    rw [List.forall_mem_cons] at hchange
    obtain ⟨beat, hbeat, hholds⟩ := ih hchange.2
    obtain ⟨beat', hbeat', ht⟩ :=
      Scene.exists_treats (s := ⟨g, m⟩) (hn.trans_le c.admitted_le) hbeat
    refine ⟨beat', hbeat', ?_⟩
    cases ht with
    | woken => exact hwake beat _ hholds
    | signalled hmove => exact hchange.1 _ hmove beat hholds
    | spared => exact hholds

/-- A heartbeat that has noticed that it is called off has ended, or will notice again. -/
theorem Attends.of_notices (hn : n < f.admitted) (a : Attends n f h g)
    (hnotices : ∃ s ∈ h, s.Notices n) : ∃ beat, g.heartbeats.get? n = some beat ∧
      (beat.ended = true ∨ beat.signal.isDropped = true) := by
  obtain ⟨s, hs, hmove, beat, hbeat, hoff⟩ := hnotices
  obtain ⟨later, earlier, rfl, c, -, c'⟩ := a.course.exists_of_mem hs
  have hlt := hn.trans_le c.admitted_le
  obtain ⟨beat', hbeat', ht⟩ := Scene.exists_treats hlt hbeat
  refine c'.heartbeat_of _ (hlt.trans_le s.admitted_le) ⟨beat', hbeat', ?_⟩ ?_ ?_
  · cases ht with
    | woken => exact Heartbeat.wake_of_isCalledOff hoff
    | signalled hmove' => cases hmove.symm.trans hmove'
    | spared ha => exact absurd (by rw [Scene.actor?, hmove]) ha
  · rintro beat now (hended | hdropped)
    · rw [Heartbeat.wake_of_ended hended]
      exact .inl hended
    · exact .inr ((beat.isDropped_next_wake now).trans hdropped)
  · rintro s hs change hchange beat (hended | hdropped)
    · exact .inl hended
    · refine .inr ?_
      rcases a.signals s (List.mem_append_left _ hs) change hchange with rfl | ⟨value, rfl⟩
      · rfl
      · exact hdropped

theorem Attends.not_notices (hn : n < f.admitted) (hb : f.heartbeats.get? n = some beat)
    (hoff : ¬ beat.IsCalledOff) (a : Attends n f h g)
    (hfalse : ∀ s ∈ h, ∀ change, s.move = .signalHeartbeat n change →
      change = (Signal.send · false)) : ∀ s ∈ h, ¬ s.Notices n := by
  rintro s hs ⟨-, beat', hbeat', hoff'⟩
  obtain ⟨later, earlier, rfl, c, -, -⟩ := a.course.exists_of_mem hs
  have hkept : ∃ beat, s.before.heartbeats.get? n = some beat ∧ ¬ beat.IsCalledOff := by
    refine c.heartbeat_of _ hn ⟨beat, hb, hoff⟩ ?_ ?_
    · intro beat now hquiet
      unfold Heartbeat.IsCalledOff at *
      rwa [beat.value_next_wake, beat.isDropped_next_wake]
    · intro s' hs' change hchange beat hquiet
      obtain rfl := hfalse s' (List.mem_append_right _ (List.mem_cons_of_mem _ hs')) change hchange
      unfold Heartbeat.IsCalledOff at *
      simp only [Signal.send, Bool.false_eq_true, false_or]
      exact fun hdropped => hquiet (.inr hdropped)
  obtain ⟨beat'', hbeat'', hquiet⟩ := hkept
  cases hbeat'.symm.trans hbeat''
  exact hquiet hoff'

theorem Attends.deeds_eq_nil (hn : n < f.admitted) (hb : f.heartbeats.get? n = some beat)
    (hvalue : beat.signal.value = true) (a : Attends n f h g)
    (htrue : ∀ s ∈ h, s.move ≠ .signalHeartbeat n (Signal.send · false)) :
    deeds h (.heartbeat n) = [] := by
  obtain ⟨c, -, hsignals⟩ := a
  induction c with
  | stay => rfl
  | @go h g c m hm ih =>
    rw [List.forall_mem_cons] at hsignals htrue
    have hkept : ∃ beat, g.heartbeats.get? n = some beat ∧ beat.signal.value = true := by
      refine c.heartbeat_of _ hn ⟨beat, hb, hvalue⟩ ?_ ?_
      · intro beat now hvalue
        exact (beat.value_next_wake now).trans hvalue
      · intro s hs change hchange beat hvalue
        rcases hsignals.2 s hs change hchange with rfl | ⟨value, rfl⟩
        · exact hvalue
        · cases value with
          | true => rfl
          | false => exact absurd hchange (htrue.2 s hs)
    obtain ⟨beat', hbeat', htold⟩ := hkept
    obtain ⟨_, -, ht⟩ := Scene.exists_treats (s := ⟨g, m⟩) (hn.trans_le c.admitted_le) hbeat'
    have hearlier := ih htrue.2 hsignals.2
    cases ht with
    | woken hmove hevents =>
      have hquiet : (beat'.wake g.now).report = false := by
        unfold Heartbeat.wake
        rw [if_pos htold]
        split_ifs <;> rfl
      rw [deeds_cons_of_actor (by rw [Scene.actor?, hmove]), hevents, hquiet, hearlier]
      rfl
    | signalled hmove =>
      rw [deeds_cons_of_ne (by rw [Scene.actor?, hmove]; simp), hearlier]
    | spared ha => rw [deeds_cons_of_ne ha, hearlier]

/-- When a heartbeat with a period that starts at an instant is to report, if the clock stops at
these instants. -/
def beats (period since : ℕ) (l : List ℕ) : List ℕ :=
  Ticker.ticks ⟨max period Heartbeat.shortestPeriod, since⟩ l

theorem serving_startHeartbeat {f₀ : Fleet (Faulty Cluster)} {id : InstanceId} {service : String}
    {period : ℕ} {signal : Signal}
    (hstart : f₀.startHeartbeat id service period signal = (n, f)) :
    Serving (.start f₀.now id service period signal) n f.now [] f ∧ f.now = f₀.now ∧
      f.heartbeats.get? n = some (.start f₀.now id service period signal) := by
  unfold startHeartbeat at hstart
  cases hstart
  have hget : (f₀.heartbeats.put f₀.admitted (.start f₀.now id service period signal)).get?
      f₀.admitted = some (.start f₀.now id service period signal) :=
    (Table.get?_put _ _ _ _).trans (if_pos rfl)
  refine ⟨⟨Nat.lt_succ_self _, ⟨_, [], hget, rfl, ?_, fun _ => rfl, ?_⟩, ?_⟩, rfl, hget⟩
  · exact .owing (le_refl f₀.now)
  · intro hended
    cases hended
  · intro e he
    cases he

theorem slack_lt_period (period : ℕ) : Ticker.slack < max period Heartbeat.shortestPeriod :=
  lt_max_of_lt_right (by decide)

theorem Attends.reportTimes_eq {f₀ : Fleet (Faulty Cluster)} {id : InstanceId} {service : String}
    {period : ℕ} {signal : Signal}
    (hstart : f₀.startHeartbeat id service period signal = (n, f)) (a : Attends n f h g)
    (hi : g.IsIdle (.heartbeat n)) (ho : g.heartbeatIsOver n = false) :
    reportTimes h n = beats period f₀.now (instants f₀.now h) := by
  obtain ⟨hfirst, hnow, -⟩ := serving_startHeartbeat hstart
  obtain ⟨beat, earlier, hb, -, hserves, hgoes, -⟩ :=
    (a.serving hfirst (slack_lt_period period)).exists_heartbeat
  rw [heartbeatIsOver_eq hb] at ho
  obtain rfl := hgoes ho
  obtain ⟨l, hl⟩ := a.course.exists_instants
  rw [hl] at hserves
  rw [← hnow, hl]
  have htimes := hserves.eq_ticks_of_lt (hi.waits hb ho).1
  rw [hnow]
  exact htimes

/-- A heartbeat makes one report wherever the clock stops and its tick is due, the first of them
when it starts, and so at least a period apart, up to what a tick may be late. Another heartbeat
with the same period that sees the same instants reports at the same times, whatever comes of the
reports of either and whatever either is sent that does not end it. It ends if and only if it is
woken when it has been called off, which it is before the clock goes on; then it has made the
reports of the instants up to its end, but for the last one at most, and makes no more. It does not
end while it is sent nothing but false, and does not report if its channel holds true from its
start. -/
theorem heartbeat_cadence {registry : Registry} {f₀ : Fleet (Faulty Cluster)} {h₀ : List Scene}
    {id : InstanceId} {service : String} {period : ℕ} {signal : Signal}
    (c₀ : Course (start registry) h₀ f₀)
    (hstart : f₀.startHeartbeat id service period signal = (n, f)) (a : Attends n f h g) :
    (∀ e ∈ deeds h (.heartbeat n), ∃ r, e.happening = .called (.report id service) r) ∧
    ((reportTimes h n).Pairwise fun later earlier =>
      earlier + max period Heartbeat.shortestPeriod ≤ later + Ticker.slack) ∧
    (g.IsIdle (.heartbeat n) → g.heartbeatIsOver n = false →
      reportTimes h n = beats period f₀.now (instants f₀.now h) ∧
      (reportTimes h n).getLast? = some f₀.now ∧
      ∀ (f₀' f' g' : Fleet (Faulty Cluster)) (h' : List Scene) (id' : InstanceId)
        (service' : String) (signal' : Signal) (n' : ℕ),
        f₀'.startHeartbeat id' service' period signal' = (n', f') → Attends n' f' h' g' →
        g'.IsIdle (.heartbeat n') → g'.heartbeatIsOver n' = false →
        instants f₀'.now h' = instants f₀.now h → reportTimes h' n' = reportTimes h n) ∧
    (g.heartbeatIsOver n = true →
      (∃ later s earlier, h = later ++ s :: earlier ∧ s.Notices n ∧
        (reportTimes h n = beats period f₀.now (instants f₀.now earlier) ∨
          reportTimes h n = beats period f₀.now (instants f₀.now earlier).tail)) ∧
      ∀ h' g', Course g h' g' → deeds h' (.heartbeat n) = []) ∧
    (g.IsIdle (.heartbeat n) → (∃ s ∈ h, s.Notices n) ∨ g.HasCalledOff n →
      g.heartbeatIsOver n = true) ∧
    (signal.value = false → signal.isDropped = false →
      (∀ s ∈ h, ∀ change, s.move = .signalHeartbeat n change → change = (Signal.send · false)) →
      g.heartbeatIsOver n = false) ∧
    (signal.value = true → (∀ s ∈ h, s.move ≠ .signalHeartbeat n (Signal.send · false)) →
      deeds h (.heartbeat n) = []) := by
  obtain ⟨hfirst, hnow, hb₀⟩ := serving_startHeartbeat hstart
  have hserving := a.serving hfirst (slack_lt_period period)
  obtain ⟨beat, earlier, hb, -, hserves, -, hends⟩ := hserving.exists_heartbeat
  rw [heartbeatIsOver_eq hb]
  refine ⟨hserving.reports, hserves.pairwise, ?_, ?_, ?_, ?_, ?_⟩
  · intro hi hgoes
    have htimes := a.reportTimes_eq hstart hi ((heartbeatIsOver_eq hb).trans hgoes)
    refine ⟨htimes, ?_, ?_⟩
    · rw [htimes]
      exact Ticker.getLast?_ticks _ _ (getLast?_instants f₀.now h)
    · intro f₀' f' g' h' id' service' signal' n' hstart' a' hi' ho' hinstants
      have hsince : f₀'.now = f₀.now := by
        have hlast := getLast?_instants f₀'.now h'
        rw [hinstants, getLast?_instants] at hlast
        exact (Option.some.inj hlast).symm
      rw [a'.reportTimes_eq hstart' hi' ho', hinstants, hsince, htimes]
  · intro hover
    obtain ⟨later, s, rfl, hnotices⟩ := hends hover
    refine ⟨⟨later, s, earlier, rfl, hnotices, ?_⟩, fun h' g' c => ?_⟩
    · rw [hnow] at hserves
      exact hserves.eq_ticks
    · have c₁ := c₀.go (.startHeartbeat id service period signal) trivial
      have hf : f₀.after (.startHeartbeat id service period signal) = f := congrArg Prod.snd hstart
      rw [hf] at c₁
      exact ((c₁.trans a.course).silent (m := .heartbeat n)
        ⟨hserving.lt_admitted, (heartbeatIsOver_eq hb).trans hover⟩ c).2
  · intro hi hcalled
    by_contra hgoes
    obtain ⟨-, hquiet⟩ := hi.waits hb (Bool.eq_false_iff.mpr hgoes)
    rcases hcalled with hnotices | ⟨beat', hb', hoff⟩
    · obtain ⟨beat', hb', hcalled⟩ := a.of_notices hfirst.lt_admitted hnotices
      cases hb.symm.trans hb'
      exact hquiet (.inr (hcalled.resolve_left hgoes))
    · cases hb.symm.trans hb'
      exact hquiet hoff
  · intro hvalue hdropped hfalse
    by_contra hover
    obtain ⟨later, s, rfl, hnotices⟩ := hends (Bool.eq_true_of_not_eq_false hover)
    have hquiet : ¬ (Heartbeat.start f₀.now id service period signal).IsCalledOff := by
      simp [Heartbeat.IsCalledOff, Heartbeat.start, hvalue, hdropped]
    exact a.not_notices hfirst.lt_admitted hb₀ hquiet hfalse s
      (List.mem_append_right _ List.mem_cons_self) hnotices
  · intro hvalue htrue
    exact a.deeds_eq_nil hfirst.lt_admitted hb₀ hvalue htrue

def eager : Fleet (Faulty Cluster) :=
  ((start (.withWindow 5)).startHeartbeat ⟨"movie-1"⟩ "movie" 0 {}).2

/-- After its first report, which fails as the instance is not registered, it is sent false, and
then the clock leaps over four periods. -/
def leap : List Move :=
  [.wake (.heartbeat 0), .pass (Duration.ofMillis 45), .wake (.heartbeat 0),
    .signalHeartbeat 0 (Signal.send · false), .wake (.heartbeat 0)]

def leapAndEnd : List Move :=
  [.wake (.heartbeat 0), .signalHeartbeat 0 (Signal.send · true)] ++ leap

theorem cadence_of_leap : reportTimes (eager.scenes leap) 0 = [Duration.ofMillis 45, 0] ∧
    (eager.afterAll leapAndEnd).heartbeatIsOver 0 = true ∧
      ∀ h g, Course (eager.afterAll leapAndEnd) h g → deeds h (.heartbeat 0) = [] := by
  have c₀ : Course (start (.withWindow 5)) [] (start (.withWindow 5)) := .stay
  have hstart : (start (.withWindow 5)).startHeartbeat ⟨"movie-1"⟩ "movie" 0 {} = (0, eager) := rfl
  have a : Attends 0 eager (eager.scenes leap) (eager.afterAll leap) := by
    refine ⟨course_scenes _ _ (by decide +kernel), by decide +kernel, ?_⟩
    simp [leap, scenes]
  have a' : Attends 0 eager (eager.scenes leapAndEnd) (eager.afterAll leapAndEnd) := by
    refine ⟨course_scenes _ _ (by decide +kernel), by decide +kernel, ?_⟩
    simp [leapAndEnd, leap, scenes]
  obtain ⟨-, -, hgoes, -⟩ := heartbeat_cadence c₀ hstart a
  obtain ⟨-, -, -, hends, hover, -⟩ := heartbeat_cadence c₀ hstart a'
  obtain ⟨htimes, -⟩ := hgoes (by decide +kernel) (by decide +kernel)
  have hnotices : ∃ s ∈ eager.scenes leapAndEnd, s.Notices 0 :=
    ⟨_, List.mem_cons_self, rfl, _, rfl, .inl rfl⟩
  have hended := hover (by decide +kernel) (.inl hnotices)
  exact ⟨htimes, hended, (hends hended).2⟩

end Fleet

end Rollcall
