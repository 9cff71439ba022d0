import Rollcall.Fleet.Members
import Rollcall.Proofs.Happenings

/-!
# Courses of a fleet

A course is anything that may befall a fleet in memory. Members that are due are woken in any order,
the clock goes on or leaps however far, calls of any operation are made to fail with any error, and
hands from outside make any call and start, signal and let go of members. A course is the list of
its scenes, the latest first: the fleet before each, and the move that was made. What is asked of
the scenes is left to each statement about courses.
-/

namespace Rollcall.Fleet

inductive Move where
  | wake (m : Member)
  | pass (target : Nat)
  | inject (fault : Fault)
  | call (c : Call)
  | startHeartbeat (id : InstanceId) (service : String) (period : Nat) (signal : Signal)
  | signalHeartbeat (n : Nat) (change : Signal → Signal)
  | openLock (ttl : Nat)
  | dropLock (n : Nat)
  | closeLock (n : Nat)
  | startWorker (lock : Nat) (processor : Processor)
  | signalWorker (n : Nat) (change : Signal → Signal)
  /-- A processor is let go of, in the middle of its job or not. -/
  | dismissWorker (n : Nat)

/-- The fleet after a move. -/
def after (f : Fleet (Faulty Cluster)) : Move → Fleet (Faulty Cluster)
  | .wake m => f.wake m
  | .pass target => { f with now := target }
  | .inject fault => { f with backend := f.backend.inject fault }
  | .call c => (f.perform c).2
  | .startHeartbeat id service period signal => (f.startHeartbeat id service period signal).2
  | .signalHeartbeat n change => f.signalHeartbeat n change
  | .openLock ttl => (f.openLock ttl).2
  | .dropLock n => f.dropLock n
  | .closeLock n => (f.closeLock n).2
  | .startWorker lock processor => (f.startWorker lock processor).2
  | .signalWorker n change => f.signalWorker n change
  | .dismissWorker n => sweep { f with workers := f.workers.erase n }

/-- Members are woken when they are due, and the clock does not run backwards. -/
def Move.IsPossible (f : Fleet (Faulty Cluster)) : Move → Prop
  | .wake m => ∃ d ∈ f.duties, d.1 ≤ f.now ∧ d.2 = m
  | .pass target => f.now ≤ target
  | _ => True

instance (f : Fleet (Faulty Cluster)) (m : Move) : Decidable (m.IsPossible f) :=
  match m with
  | .wake m => inferInstanceAs (Decidable (∃ d ∈ f.duties, d.1 ≤ f.now ∧ d.2 = m))
  | .pass target => inferInstanceAs (Decidable (f.now ≤ target))
  | .inject _ | .call _ | .startHeartbeat .. | .signalHeartbeat .. | .openLock _ | .dropLock _
  | .closeLock _ | .startWorker .. | .signalWorker .. | .dismissWorker _ => .isTrue trivial

structure Scene where
  before : Fleet (Faulty Cluster)
  move : Move

namespace Scene

def after (s : Scene) : Fleet (Faulty Cluster) := s.before.after s.move

/-- What came of the move, the latest first. -/
def events (s : Scene) : List Event :=
  s.after.journal.take (s.after.journal.length - s.before.journal.length)

def happenings (s : Scene) : List Happening := s.events.map (·.happening)

/-- The member that made the calls of the scene for itself: it was woken, opened or closed. -/
def actor? (s : Scene) : Option Member :=
  match s.move with
  | .wake m => some m
  | .openLock _ => some (.lock s.before.admitted)
  | .closeLock n => some (.lock n)
  | _ => none

end Scene

inductive Course (f : Fleet (Faulty Cluster)) : List Scene → Fleet (Faulty Cluster) → Prop
  | stay : Course f [] f
  | go {h g} (c : Course f h g) (m : Move) (hm : m.IsPossible g) :
      Course f (⟨g, m⟩ :: h) (g.after m)

def afterAll (f : Fleet (Faulty Cluster)) (moves : List Move) : Fleet (Faulty Cluster) :=
  moves.foldr (fun m g => g.after m) f

def scenes (f : Fleet (Faulty Cluster)) : List Move → List Scene
  | [] => []
  | m :: moves => ⟨f.afterAll moves, m⟩ :: f.scenes moves

theorem course_scenes (f : Fleet (Faulty Cluster)) (moves : List Move)
    (h : ∀ s ∈ f.scenes moves, s.move.IsPossible s.before) :
    Course f (f.scenes moves) (f.afterAll moves) := by
  induction moves with
  | nil => exact .stay
  | cons m moves ih =>
    rw [scenes, List.forall_mem_cons] at h
    exact (ih h.2).go m h.1

def start (registry : Registry) : Fleet (Faulty Cluster) :=
  { backend := { behind := { registry } } }

/-- All that happened in the scenes, the latest first. -/
def past (h : List Scene) : List Happening := h.flatMap Scene.happenings

/-- All that came of what a member did, the latest first. -/
def deeds (h : List Scene) (m : Member) : List Event :=
  h.flatMap fun s => if s.actor? = some m then s.events else []

variable {f g : Fleet (Faulty Cluster)} {h : List Scene}

theorem past_cons (s : Scene) (h : List Scene) : past (s :: h) = s.happenings ++ past h :=
  List.flatMap_cons

theorem deeds_cons_of_actor {s : Scene} {m : Member} (hs : s.actor? = some m) (h : List Scene) :
    deeds (s :: h) m = s.events ++ deeds h m := by
  simp only [deeds, List.flatMap_cons, hs, if_true]

theorem deeds_cons_of_ne {s : Scene} {m : Member} (hs : s.actor? ≠ some m) (h : List Scene) :
    deeds (s :: h) m = deeds h m := by
  simp only [deeds, List.flatMap_cons, hs, if_false, List.nil_append]

theorem Course.trans {g' : Fleet (Faulty Cluster)} {h' : List Scene} (c : Course f h g)
    (c' : Course g h' g') : Course f (h' ++ h) g' := by
  induction c' with
  | stay => exact c
  | go _ m hm ih => exact ih.go m hm

theorem Course.exists_of_mem {s : Scene} (c : Course f h g) (hs : s ∈ h) :
    ∃ later earlier, h = later ++ s :: earlier ∧ Course f earlier s.before ∧
      s.move.IsPossible s.before ∧ Course s.after later g := by
  induction c with
  | stay => cases hs
  | @go h g c m hm ih =>
    rcases List.mem_cons.mp hs with rfl | hs
    · exact ⟨[], h, rfl, c, hm, .stay⟩
    · obtain ⟨later, earlier, rfl, c', hs, hafter⟩ := ih hs
      exact ⟨⟨g, m⟩ :: later, earlier, rfl, c', hs, hafter.go m hm⟩

/-- The members are the same, and the backend and the journal are what happenings have left. -/
structure Acts (f : Fleet (Faulty Cluster)) (l : List Happening) (g : Fleet (Faulty Cluster)) :
    Prop where
  undergoes : f.backend.Undergoes f.now l g.backend
  eq : g = { f with backend := g.backend, journal := l.map (Event.mk f.now) ++ f.journal }

theorem Acts.refl (f : Fleet (Faulty Cluster)) : Acts f [] f := ⟨.nothing, rfl⟩

theorem acts_perform (f : Fleet (Faulty Cluster)) (c : Call) :
    Acts f [.called c (f.perform c).1] (f.perform c).2 :=
  ⟨.one f.backend f.now c, rfl⟩

theorem acts_record (f : Fleet (Faulty Cluster)) (job : String) (stage : Stage) :
    Acts f [.marked job stage] (f.record (.marked job stage)) :=
  ⟨Faulty.Undergoes.nothing.mark job stage, rfl⟩

theorem Acts.now_eq {l : List Happening} (ha : Acts f l g) : g.now = f.now := by rw [ha.eq]

theorem Acts.locks_eq {l : List Happening} (ha : Acts f l g) : g.locks = f.locks := by rw [ha.eq]

theorem Acts.admitted_eq {l : List Happening} (ha : Acts f l g) : g.admitted = f.admitted := by
  rw [ha.eq]

theorem Acts.heartbeats_eq {l : List Happening} (ha : Acts f l g) :
    g.heartbeats = f.heartbeats := by
  rw [ha.eq]

theorem Acts.journal_eq {l : List Happening} (ha : Acts f l g) :
    g.journal = l.map (Event.mk f.now) ++ f.journal := by
  rw [ha.eq]

theorem Acts.trans {l l' : List Happening} {g' : Fleet (Faulty Cluster)} (ha : Acts f l g)
    (ha' : Acts g l' g') : Acts f (l' ++ l) g' where
  undergoes := ha.undergoes.trans (ha.now_eq ▸ ha'.undergoes)
  eq := by
    rw [ha'.eq, ha.eq]
    simp

theorem acts_callAll {α : Type} (f : Fleet (Faulty Cluster)) (p : Plan Calls α) :
    ∃ l, Acts f l (f.callAll p).2 := by
  induction p generalizing f with
  | done a => exact ⟨[], .refl f⟩
  | ask c next ih =>
    obtain ⟨l, ha⟩ := ih (f.perform c).1 (f.perform c).2
    exact ⟨_, (acts_perform f c).trans ha⟩
  | wait d next ih => exact ih () f

theorem acts_carryOut {α : Type} (f : Fleet (Faulty Cluster)) (random : RandomSource)
    (p : Plan Work α) : ∃ l, Acts f l (f.carryOut (fun _ f => f) random p).2.1 := by
  induction p generalizing f random with
  | done a => exact ⟨[], .refl f⟩
  | ask step next ih =>
    cases step with
    | call c =>
      obtain ⟨l, ha⟩ := ih (f.perform c).1 (f.perform c).2 random
      exact ⟨_, (acts_perform f c).trans ha⟩
    | choose more => exact ih (random.choose more).1 f (random.choose more).2
    | mark job stage =>
      obtain ⟨l, ha⟩ := ih () (f.record (.marked job stage)) random
      exact ⟨_, (acts_record f job stage).trans ha⟩
  | wait d next ih => exact ih () f random

namespace Scene

variable {s : Scene} {l : List Happening}

theorem events_of_journal {l : List Event} (hj : s.after.journal = l ++ s.before.journal) :
    s.events = l := by
  unfold events
  rw [hj, List.length_append, Nat.add_sub_cancel]
  exact List.take_left

structure Rearranges (f g : Fleet (Faulty Cluster)) : Prop where
  journal : g.journal = f.journal
  backend : g.backend = f.backend
  now : g.now = f.now

theorem acts_wake (f : Fleet (Faulty Cluster)) (m : Member) :
    ∃ l g, Acts f l g ∧ Rearranges g (f.wake m) := by
  cases m with
  | heartbeat n =>
    simp only [Fleet.wake]
    split
    · exact ⟨[], f, .refl f, rfl, rfl, rfl⟩
    · next beat _ =>
      split_ifs
      · exact ⟨_, _, acts_perform f beat.call, rfl, rfl, rfl⟩
      · exact ⟨[], f, .refl f, rfl, rfl, rfl⟩
  | lock n =>
    simp only [Fleet.wake]
    split
    · exact ⟨[], f, .refl f, rfl, rfl, rfl⟩
    · next t _ =>
      obtain ⟨l, ha⟩ := acts_callAll f (t.provider.tick f.now)
      exact ⟨l, _, ha, rfl, rfl, rfl⟩
  | worker n =>
    simp only [Fleet.wake]
    split
    · exact ⟨[], f, .refl f, rfl, rfl, rfl⟩
    · next w _ =>
      split
      · exact ⟨[], f, .refl f, rfl, rfl, rfl⟩
      · next t _ =>
        obtain ⟨l, ha⟩ := acts_carryOut f w.processor.random
          (w.processor.wake t.provider.session f.now)
        exact ⟨l, _, ha, rfl, rfl, rfl⟩

theorem acts_openLock (f : Fleet (Faulty Cluster)) (ttl : Nat) :
    ∃ l g, Acts f l g ∧ Rearranges g (f.openLock ttl).2 := by
  obtain ⟨l, ha⟩ := acts_callAll f (LockProvider.start f.now ttl)
  refine ⟨l, _, ha, ?_⟩
  unfold Fleet.openLock
  split
  · next hstart => rw [hstart]; exact ⟨rfl, rfl, rfl⟩
  · next hstart => rw [hstart]; exact ⟨rfl, rfl, rfl⟩

theorem acts_closeLock (f : Fleet (Faulty Cluster)) (n : Nat) :
    ∃ l g, Acts f l g ∧ Rearranges g (f.closeLock n).2 := by
  unfold Fleet.closeLock
  split
  · exact ⟨[], f, .refl f, rfl, rfl, rfl⟩
  · next t _ =>
    exact ⟨_, _, acts_perform f (.destroySession t.provider.session), rfl, rfl, rfl⟩

theorem rearranges_dropLock (f : Fleet (Faulty Cluster)) (n : Nat) :
    Rearranges f (f.dropLock n) := by
  unfold Fleet.dropLock
  split <;> exact ⟨rfl, rfl, rfl⟩

theorem rearranges_signalHeartbeat (f : Fleet (Faulty Cluster)) (n : Nat)
    (change : Signal → Signal) : Rearranges f (f.signalHeartbeat n change) := by
  unfold Fleet.signalHeartbeat
  split <;> exact ⟨rfl, rfl, rfl⟩

theorem rearranges_signalWorker (f : Fleet (Faulty Cluster)) (n : Nat)
    (change : Signal → Signal) : Rearranges f (f.signalWorker n change) := by
  unfold Fleet.signalWorker
  split <;> exact ⟨rfl, rfl, rfl⟩

/-- A move makes calls and then rearranges members. Only the clock moves time, and only an injection
adds to the faults that are waiting. -/
theorem acts (s : Scene) : ∃ l g, Acts s.before l g ∧ s.after.journal = g.journal ∧
    s.after.backend.behind = g.backend.behind ∧
      (∀ x ∈ s.after.backend.pending, x ∈ g.backend.pending ∨ s.move = .inject x) ∧
        (s.after.now = s.before.now ∨ s.move = .pass s.after.now) := by
  have hacts : (∃ l g, Acts s.before l g ∧ Rearranges g s.after) →
      ∃ l g, Acts s.before l g ∧ s.after.journal = g.journal ∧
        s.after.backend.behind = g.backend.behind ∧
          (∀ x ∈ s.after.backend.pending, x ∈ g.backend.pending ∨ s.move = .inject x) ∧
            (s.after.now = s.before.now ∨ s.move = .pass s.after.now) := by
    rintro ⟨l, g, ha, hr⟩
    exact ⟨l, g, ha, hr.journal, by rw [hr.backend], fun x hx => .inl (hr.backend ▸ hx),
      .inl (hr.now.trans ha.now_eq)⟩
  obtain ⟨f, m⟩ := s
  cases m with
  | wake m => exact hacts (acts_wake f m)
  | pass target =>
    exact ⟨[], f, .refl f, rfl, rfl, fun x hx => .inl hx, .inr rfl⟩
  | inject fault =>
    refine ⟨[], f, .refl f, rfl, rfl, fun x hx => ?_, .inl rfl⟩
    rcases List.mem_append.mp hx with hx | hx
    · exact .inl hx
    · exact .inr (by rw [List.mem_singleton.mp hx])
  | call c => exact hacts ⟨_, _, acts_perform f c, rfl, rfl, rfl⟩
  | startHeartbeat id service period signal => exact hacts ⟨[], f, .refl f, rfl, rfl, rfl⟩
  | signalHeartbeat n change => exact hacts ⟨[], f, .refl f, rearranges_signalHeartbeat f n change⟩
  | openLock ttl => exact hacts (acts_openLock f ttl)
  | dropLock n => exact hacts ⟨[], f, .refl f, rearranges_dropLock f n⟩
  | closeLock n => exact hacts (acts_closeLock f n)
  | startWorker lock processor => exact hacts ⟨[], f, .refl f, rfl, rfl, rfl⟩
  | signalWorker n change => exact hacts ⟨[], f, .refl f, rearranges_signalWorker f n change⟩
  | dismissWorker n => exact hacts ⟨[], f, .refl f, rfl, rfl, rfl⟩

theorem events_of_acts {g : Fleet (Faulty Cluster)} (ha : Acts s.before l g)
    (hj : s.after.journal = g.journal) : s.events = l.map (Event.mk s.before.now) :=
  events_of_journal (hj.trans ha.journal_eq)

theorem happenings_of_acts {g : Fleet (Faulty Cluster)} (ha : Acts s.before l g)
    (hj : s.after.journal = g.journal) : s.happenings = l := by
  unfold happenings
  rw [events_of_acts ha hj, List.map_map]
  exact List.map_id l

theorem happenings_of_call {c : Call} (hm : s.move = .call c) :
    s.happenings = [.called c (s.before.perform c).1] := by
  obtain ⟨f, m⟩ := s
  cases hm
  exact happenings_of_acts (s := ⟨f, .call c⟩) (acts_perform f c) rfl

theorem happenings_of_signalHeartbeat {n : Nat} {change : Signal → Signal}
    (hm : s.move = .signalHeartbeat n change) : s.happenings = [] := by
  obtain ⟨f, m⟩ := s
  cases hm
  exact happenings_of_acts (s := ⟨f, .signalHeartbeat n change⟩) (.refl f)
    (rearranges_signalHeartbeat f n change).journal

theorem happenings_of_startHeartbeat {id : InstanceId} {service : String} {period : Nat}
    {signal : Signal} (hm : s.move = .startHeartbeat id service period signal) :
    s.happenings = [] := by
  obtain ⟨f, m⟩ := s
  cases hm
  exact happenings_of_acts (s := ⟨f, .startHeartbeat id service period signal⟩) (.refl f) rfl

theorem events_eq (s : Scene) : s.events = s.happenings.map (Event.mk s.before.now) := by
  obtain ⟨l, g, ha, hj, -⟩ := s.acts
  rw [happenings_of_acts ha hj, events_of_acts ha hj]

/-- The calls of a scene are what its backend undergoes. -/
theorem undergoes (s : Scene) : ∃ b, s.before.backend.Undergoes s.before.now s.happenings b ∧
    s.after.backend.behind = b.behind ∧
      ∀ x ∈ s.after.backend.pending, x ∈ b.pending ∨ s.move = .inject x := by
  obtain ⟨l, g, ha, hj, hb, hp, -⟩ := s.acts
  rw [happenings_of_acts ha hj]
  exact ⟨g.backend, ha.undergoes, hb, hp⟩

theorem now_cases (s : Scene) : s.after.now = s.before.now ∨ s.move = .pass s.after.now := by
  obtain ⟨l, g, -, -, -, -, hn⟩ := s.acts
  exact hn

theorem now_le {s : Scene} (hm : s.move.IsPossible s.before) : s.before.now ≤ s.after.now := by
  rcases s.now_cases with heq | hpass
  · exact heq.ge
  · rw [hpass] at hm
    exact hm

end Scene

end Rollcall.Fleet
