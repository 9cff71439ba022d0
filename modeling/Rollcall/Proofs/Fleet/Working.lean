import Rollcall.Proofs.Fleet.Joining
import Rollcall.Proofs.Processor.Run

/-!
# Processors in their fleet

What befalls a processor in a course of its fleet is a run of the processor by itself: the fleet
wakes it when it has something to do, answers its questions, lets time pass, and hands on what its
owner does with its flag. The journal has what the processor did in that run, save for the lots that
it drew. A fleet that is left to itself stops the clock for each of its processors.
-/

namespace Rollcall

open Plan (Exchange atOnce)
open Processor (Clock Moment Run exchanges exchanges_cons exchanges_append)
open Processor.Moment (isPunctual_woken isPunctual_sent isPunctual_dropped)

def Plan.Exchange.event? : Exchange Work → Option Event
  | ⟨time, .call c, r⟩ => some ⟨time, .called c r⟩
  | ⟨_, .choose _, _⟩ => none
  | ⟨time, .mark job stage, _⟩ => some ⟨time, .marked job stage⟩

namespace Fleet

variable {f g : Fleet (Faulty Cluster)} {h : List Scene} {s : Scene} {n : ℕ} {w : Worker}

def traces (l : List (Exchange Work)) : List Event := (l.filterMap Exchange.event?).reverse

theorem traces_cons (x : Exchange Work) (l : List (Exchange Work)) :
    traces (x :: l) = traces l ++ x.event?.toList := by
  unfold traces
  cases h : x.event? with
  | none => rw [List.filterMap_cons_none h, Option.toList_none, List.append_nil]
  | some event => rw [List.filterMap_cons_some h, List.reverse_cons, Option.toList_some]

theorem traces_append (l l' : List (Exchange Work)) : traces (l ++ l') = traces l' ++ traces l := by
  simp [traces]

/-- What a fleet does with work at one instant is a way in which the work may proceed. -/
theorem exists_proceeds_carryOut {α : Type} (f : Fleet (Faulty Cluster)) (random : RandomSource)
    (p : Plan Work α) : ∃ l,
      p.Proceeds atOnce f.now l (.done (f.carryOut (fun _ f => f) random p).1) f.now ∧
      (f.carryOut (fun _ f => f) random p).2.1.journal = traces l ++ f.journal := by
  induction p generalizing f random with
  | done a => exact ⟨[], .stay _ _, rfl⟩
  | ask step next ih =>
    cases step with
    | call c =>
      obtain ⟨l, h, hj⟩ := ih (f.perform c).1 (f.perform c).2 random
      refine ⟨_, .ask (f.perform c).1 h, hj.trans ?_⟩
      rw [traces_cons, List.append_assoc]
      rfl
    | choose more =>
      obtain ⟨l, h, hj⟩ := ih (random.choose more).1 f (random.choose more).2
      refine ⟨_, .ask (random.choose more).1 h, hj.trans ?_⟩
      rw [traces_cons, List.append_assoc]
      rfl
    | mark job stage =>
      obtain ⟨l, h, hj⟩ := ih () (f.record (.marked job stage)) random
      refine ⟨_, .ask () h, hj.trans ?_⟩
      rw [traces_cons, List.append_assoc]
      rfl
  | wait d next ih =>
    obtain ⟨l, h, hj⟩ := ih () f random
    exact ⟨l, .wait h, hj⟩

/-- Nobody lets go of the processor, and nothing is sent to it after its owner has let go of its
flag. -/
structure Scene.Minds (s : Scene) (n : ℕ) : Prop where
  stays : s.move ≠ .dismissWorker n
  signals : ∀ change, s.move = .signalWorker n change → change = Signal.dropOwner ∨
    ∃ value, change = (Signal.send · value) ∧
      ∀ w, s.before.workers.get? n = some w → w.processor.signal.isDropped = false

/-- The clock stops for the processor, and only at whole milliseconds. -/
structure Scene.IsTimely (s : Scene) (n : ℕ) : Prop where
  stops : s.move.StopsFor s.before (.worker n)
  millis : ∀ target, s.move = .pass target → Clock.milli.IsClosed target

/-- The processor is there after the scene, and has got there by a run in which it did what it did
in the scene. -/
structure Scene.Befalls (s : Scene) (n : ℕ) (w : Worker) (k : List Moment) (w' : Worker) :
    Prop where
  get? : s.after.workers.get? n = some w'
  run : Run w.processor s.before.now k w'.processor s.after.now
  deeds_cons : ∀ h, deeds (s :: h) (.worker n) = traces (exchanges k) ++ deeds h (.worker n)
  punctual : s.IsTimely n → ∀ m ∈ k, m.IsPunctual .milli

theorem Scene.befalls_of_wake (hp : Paced s.before) (hm : s.move.IsPossible s.before)
    (hmove : s.move = .wake (.worker n)) (hw : s.before.workers.get? n = some w) :
    ∃ k w', s.Befalls n w k w' := by
  have ha : s.actor? = some (.worker n) := by rw [actor?, hmove]
  rw [hmove] at hm
  obtain ⟨⟨due, _⟩, hduty, hle, rfl⟩ := hm
  obtain ⟨w₀, hw₀, hdue⟩ := worker_of_mem_duties hp.workers_unique hduty
  cases hw.symm.trans hw₀
  have hnow : s.after.now = s.before.now := by rw [after, hmove]; exact now_wake _ _
  cases ht : s.before.locks.get? w.lock with
  | none =>
    have hafter : s.after = s.before := by rw [after, hmove]; exact wake_worker_of_lost hw ht
    have hevents : s.events = [] := events_of_journal (by rw [hafter]; rfl)
    refine ⟨[], w, hafter.symm ▸ hw, hnow ▸ .start, fun h => ?_, fun _ => List.forall_mem_nil _⟩
    rw [deeds_cons_of_actor ha, hevents]
    rfl
  | some t =>
    obtain ⟨l, hgo, hj⟩ := exists_proceeds_carryOut s.before w.processor.random
      (w.processor.wake t.provider.session s.before.now)
    have hafter : s.after = sweep { (s.before.turn w t).2.1 with
        workers := s.before.workers.put n (s.before.turned w t) } := by
      rw [after, hmove]
      exact wake_worker_eq hw ht
    have hevents : s.events = traces l := events_of_journal (by rw [hafter]; exact hj)
    refine ⟨[⟨w.processor, s.before.now, .woken l⟩], s.before.turned w t, ?_, ?_, fun h => ?_,
      fun _ => List.forall_mem_singleton.mpr isPunctual_woken⟩
    · rw [hafter]
      exact (Table.get?_put _ _ _ _).trans (if_pos rfl)
    · rw [hnow]
      exact Run.start.wake hdue hle hgo _
    · rw [deeds_cons_of_actor ha, hevents, exchanges_cons]
      rfl

theorem Scene.befalls_of_signal {change : Signal → Signal} (hminds : s.Minds n)
    (hmove : s.move = .signalWorker n change) (hw : s.before.workers.get? n = some w) :
    ∃ k w', s.Befalls n w k w' := by
  have ha : s.actor? ≠ some (.worker n) := by simp [actor?, hmove]
  have hget : s.after.workers.get? n =
      some { w with processor := { w.processor with signal := change w.processor.signal } } := by
    rw [after, hmove]
    change (s.before.signalWorker n change).workers.get? n = _
    simp only [signalWorker, hw, Table.get?_put, if_true]
  have hnow : s.after.now = s.before.now := s.now_cases.resolve_right (by simp [hmove])
  rcases hminds.signals change hmove with rfl | ⟨value, rfl, hheld⟩
  · refine ⟨[⟨w.processor, s.before.now, .dropped⟩], _, hget, ?_, deeds_cons_of_ne ha,
      fun _ => List.forall_mem_singleton.mpr isPunctual_dropped⟩
    rw [hnow]
    exact Run.start.drop
  · refine ⟨[⟨w.processor, s.before.now, .sent value⟩], _, hget, ?_, deeds_cons_of_ne ha,
      fun _ => List.forall_mem_singleton.mpr isPunctual_sent⟩
    rw [hnow]
    exact Run.start.send (hheld w hw) value

theorem Scene.befalls_of_get? (hm : s.move.IsPossible s.before) (ha : s.actor? ≠ some (.worker n))
    (hw : s.before.workers.get? n = some w) (hget : s.after.workers.get? n = some w) :
    ∃ k w', s.Befalls n w k w' := by
  have hle := now_le hm
  rcases hle.eq_or_lt with hnow | hlater
  · exact ⟨[], w, hget, hnow ▸ .start, deeds_cons_of_ne ha, fun _ => List.forall_mem_nil _⟩
  · have hpass : s.move = .pass s.after.now := s.now_cases.resolve_left hlater.ne'
    refine ⟨[⟨w.processor, s.before.now, .passed s.after.now⟩], w, hget, Run.start.pass hle,
      deeds_cons_of_ne ha, fun htimely => List.forall_mem_singleton.mpr ?_⟩
    rintro _ ⟨⟩
    refine ⟨htimely.millis _ hpass, fun due hdue => ?_⟩
    have hstops := htimely.stops
    rw [hpass] at hstops
    exact (le_max_iff.mp (hstops _ (mem_duties_worker hw hdue) rfl)).resolve_left
      (not_le.mpr hlater)

theorem Scene.exists_befalls (hp : Paced s.before) (hm : s.move.IsPossible s.before)
    (hminds : s.Minds n) (hn : n < s.before.admitted) (hw : s.before.workers.get? n = some w) :
    ∃ k w', s.Befalls n w k w' := by
  by_cases ha : s.actor? = some (.worker n)
  · exact befalls_of_wake hp hm (move_of_actor_worker ha) hw
  · by_cases hs : ∃ change, s.move = .signalWorker n change
    · obtain ⟨change, hmove⟩ := hs
      exact befalls_of_signal hminds hmove hw
    · exact befalls_of_get? hm ha hw
        ((get?_workers hn.ne ha (not_exists.mp hs) hminds.stays).trans hw)

/-- In a course of its fleet a processor makes a run. It is on time if the clock stops for it. -/
theorem Course.exists_run (hp : Paced f) (hn : n < f.admitted) (hw : f.workers.get? n = some w)
    (c : Course f h g) (hminds : ∀ s ∈ h, s.Minds n) :
    ∃ k w', g.workers.get? n = some w' ∧ Run w.processor f.now k w'.processor g.now ∧
      deeds h (.worker n) = traces (exchanges k) ∧
      ((∀ s ∈ h, s.IsTimely n) → ∀ m ∈ k, m.IsPunctual .milli) := by
  induction c with
  | stay => exact ⟨[], w, hw, .start, rfl, fun _ => List.forall_mem_nil _⟩
  | @go h g c move hm ih =>
    rw [List.forall_mem_cons] at hminds
    obtain ⟨k, v, hv, r, hdeeds, htimely⟩ := ih hminds.2
    obtain ⟨k', w', hb⟩ := Scene.exists_befalls (s := ⟨g, move⟩) (hp.course c) hm hminds.1
      (hn.trans_le c.admitted_le) hv
    refine ⟨k' ++ k, w', hb.get?, r.trans hb.run, ?_, fun h => ?_⟩
    · rw [hb.deeds_cons, hdeeds, exchanges_append, traces_append]
    · rw [List.forall_mem_cons] at h
      exact List.forall_mem_append.mpr ⟨hb.punctual h.1, htimely h.2⟩

/-- The clock goes on to the first duty, so it stops for every member. -/
theorem Scene.IsOwn.stopsFor (ho : s.IsOwn) (m : Member) : s.move.StopsFor s.before m := by
  rcases ho with ⟨m', hmove⟩ | ⟨due, m', hfirst, hmove⟩
  · rw [hmove]
    trivial
  · rw [hmove]
    intro d hd _
    exact max_le_max_left _ (ceilMilli_mono ((earliest_spec hfirst).2 d hd))

theorem Scene.IsOwn.isTimely (ho : s.IsOwn) (hnow : Clock.milli.IsClosed s.before.now) :
    s.IsTimely n := by
  refine ⟨ho.stopsFor _, fun target hpass => ?_⟩
  rcases ho with ⟨m, hmove⟩ | ⟨due, m, -, hmove⟩
  · cases hmove.symm.trans hpass
  · cases hmove.symm.trans hpass
    rcases max_choice s.before.now (Instant.ceilMilli due) with heq | heq
    · rwa [heq]
    · rw [heq]
      exact Clock.milli.isClosed_closure due

/-- A fleet that is left to itself at a whole millisecond stays on time. -/
theorem Course.isTimely (c : Course f h g) (hown : ∀ s ∈ h, s.IsOwn)
    (hnow : Clock.milli.IsClosed f.now) :
    Clock.milli.IsClosed g.now ∧ ∀ s ∈ h, s.IsTimely n := by
  induction c with
  | stay => exact ⟨hnow, List.forall_mem_nil _⟩
  | @go h g c move hm ih =>
    rw [List.forall_mem_cons] at hown
    obtain ⟨hclosed, htimely⟩ := ih hown.2
    have hnext : Scene.IsTimely ⟨g, move⟩ n := hown.1.isTimely hclosed
    refine ⟨?_, List.forall_mem_cons.mpr ⟨hnext, htimely⟩⟩
    rcases Scene.now_cases ⟨g, move⟩ with heq | hpass
    · exact heq.symm ▸ hclosed
    · exact hnext.millis _ hpass

/-- The run that a processor makes while its fleet goes on by itself is on time. -/
theorem exists_run_runWhile (hp : Paced f) (hn : n < f.admitted) (hw : f.workers.get? n = some w)
    (hnow : Clock.milli.IsClosed f.now) (go : ℕ → Fleet (Faulty Cluster) → Bool) (fuel : ℕ) :
    ∃ k w', (runWhile go fuel f).workers.get? n = some w' ∧
      Run w.processor f.now k w'.processor (runWhile go fuel f).now ∧
      ∀ m ∈ k, m.IsPunctual .milli := by
  obtain ⟨h, c, hown⟩ := exists_course_runWhile go fuel f
  have hminds : ∀ s ∈ h, s.Minds n := fun s hs => by
    rcases hown s hs with ⟨m, hmove⟩ | ⟨due, m, -, hmove⟩
    · exact ⟨by simp [hmove], by simp [hmove]⟩
    · exact ⟨by simp [hmove], by simp [hmove]⟩
  obtain ⟨k, w', hw', r, -, hpunctual⟩ := c.exists_run hp hn hw hminds
  exact ⟨k, w', hw', r, hpunctual (c.isTimely hown hnow).2⟩

end Fleet

end Rollcall
