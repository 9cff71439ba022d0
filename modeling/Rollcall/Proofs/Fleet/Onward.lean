import Rollcall.Proofs.Fleet.Working

/-!
# The clock goes on

That a member is on time stops the clock for it until it has had its turns, and does not stop the
clock for good: at one instant a member wants only a few turns, and then has nothing to do before
the next millisecond. So a fleet in order that is left to itself reaches every instant with all of
its members on time. A heartbeat or a lock provider holds up the clock in no fleet at all.
-/

namespace Rollcall

namespace Instant

variable {i j : Nat}

theorem add_milli_le_ceilMilli (h : Duration.ofMillis 1 ∣ i) (hlt : i < j) :
    i + Duration.ofMillis 1 ≤ ceilMilli j := by
  obtain ⟨k, rfl⟩ := h
  simp only [ceilMilli, Duration.ofMillis] at *
  omega

theorem milli_dvd_ceilMilli (i : Nat) : Duration.ofMillis 1 ∣ ceilMilli i :=
  ⟨(i + 999999) / 1000000, by simp only [ceilMilli, Duration.ofMillis]; omega⟩

theorem ceilMilli_le (h : i ≤ ceilMilli j) : ceilMilli i ≤ ceilMilli j :=
  (Fleet.ceilMilli_mono h).trans_eq (ceilMilli_of_dvd (milli_dvd_ceilMilli j))

end Instant

namespace Fleet

variable {f g : Fleet (Faulty Cluster)} {h : List Scene} {m : Member} {target : Nat}

theorem Course.isPunctual_of_own (c : Course f h g) (hown : ∀ s ∈ h, s.IsOwn)
    (hnow : Duration.ofMillis 1 ∣ f.now) (m : Member) : ∀ s ∈ h, s.IsPunctual m := by
  intro s hs
  refine ⟨fun _ => ?_, (hown s hs).stopsFor m⟩
  obtain ⟨later, earlier, rfl, c', -⟩ := c.exists_of_mem hs
  have hclosed := (c'.isTimely (n := 0)
    (fun s' hs' => hown s' (List.mem_append_right _ (List.mem_cons_of_mem _ hs')))
    (Processor.Clock.milli.isClosed_iff.mpr (Instant.ceilMilli_of_dvd hnow))).1
  rw [← show Instant.ceilMilli s.before.now = s.before.now from hclosed.closure_eq]
  exact Instant.milli_dvd_ceilMilli _

theorem Scene.isPunctual_pass (hstops : (Move.pass target).StopsFor f m) :
    Scene.IsPunctual ⟨f, .pass target⟩ m := by
  refine ⟨fun hmove => ?_, hstops⟩
  cases hmove

/-- The clock has not gone beyond the instant, and the members have nothing to do before the clock
has passed it. -/
structure Awaits (f : Fleet (Faulty Cluster)) (target : Nat) : Prop where
  now_le : f.now ≤ target
  lt_due : ∀ d ∈ f.duties, target < Instant.ceilMilli d.1

theorem awaits_runWhile_succ {fuel : Nat} (hle : f.now ≤ target)
    (hround : ∀ due m, f.earliest = some (due, m) → max f.now (Instant.ceilMilli due) ≤ target →
      (runWhile (fun t _ => t ≤ target) fuel
        (settle { f with now := max f.now (Instant.ceilMilli due) })).Awaits target) :
    (runWhile (fun t _ => t ≤ target) (fuel + 1) f).Awaits target := by
  simp only [Fleet.runWhile]
  split
  · next due m hfirst =>
    split_ifs with hgo
    · exact hround due m hfirst (by simpa using hgo)
    · refine ⟨hle, fun d hd => ?_⟩
      have hmono := ceilMilli_mono ((earliest_spec hfirst).2 d hd)
      simp only [decide_eq_true_eq] at hgo
      exact (not_le.mp fun h => hgo (max_le hle h)).trans_le hmono
  · next hnone =>
    refine ⟨hle, ?_⟩
    rw [earliest_eq_none hnone]
    exact List.forall_mem_nil _

/-- Each round of a quiet fleet takes the clock to another millisecond, so that a round for each
millisecond leaves nothing to do before the instant that is wanted. -/
theorem awaits_runWhile_of_isQuiet {fuel : Nat} (hp : Paced f) (ho : f.IsOrderly)
    (hq : f.IsQuiet) (hle : f.now ≤ target)
    (hfuel : target < Duration.ofMillis (Duration.millis f.now + (fuel + 1))) :
    (runWhile (fun t _ => t ≤ target) fuel f).Awaits target := by
  induction fuel generalizing f with
  | zero =>
    refine ⟨hle, fun d hd => hfuel.trans_le ?_⟩
    have hlt := hq d hd
    simp only [Duration.ofMillis, Duration.millis, Instant.ceilMilli]
    omega
  | succ fuel ih =>
    refine awaits_runWhile_succ hle fun due m hfirst hgo => ?_
    obtain ⟨⟨hp', ho', hnow⟩, hq'⟩ := isQuiet_round hp ho due
    have hlt := hq _ (earliest_spec hfirst).1
    refine ih hp' ho' hq' (hnow.trans_le hgo) (hfuel.trans_le ?_)
    rw [hnow, max_eq_right (hlt.le.trans (Instant.le_ceilMilli due))]
    exact ofMillis_le hlt (fuel + 1)

/-- The first round settles the fleet, and may do so where the clock is. -/
theorem awaits_runWhile (hp : Paced f) (ho : f.IsOrderly)
    (hnow : Duration.ofMillis 1 ∣ f.now) (hle : f.now ≤ target) :
    (runWhile (fun t _ => t ≤ target) (Duration.millis (target - f.now) + 1) f).Awaits target := by
  refine awaits_runWhile_succ hle fun due m _ hgo => ?_
  obtain ⟨⟨hp', ho', hnow'⟩, hq⟩ := isQuiet_round hp ho due
  refine awaits_runWhile_of_isQuiet hp' ho' hq (hnow'.trans_le hgo) ?_
  obtain ⟨k, hk⟩ := hnow
  have hlater := le_max_left f.now (Instant.ceilMilli due)
  rw [hnow']
  simp only [Duration.ofMillis, Duration.millis] at hk ⊢
  omega

/-- Letting time pass gets a fleet in order to the instant that is wanted, and has every member act
on time on the way. -/
theorem exists_course_advanceTo (hp : Paced f) (ho : f.IsOrderly)
    (hnow : Duration.ofMillis 1 ∣ f.now) (hle : f.now ≤ target) :
    (f.advanceTo target).now = target ∧
      ∃ h, Course f h (f.advanceTo target) ∧ ∀ s ∈ h, ∀ m, s.IsPunctual m := by
  obtain ⟨g, hg⟩ : ∃ g, g = runWhile (fun t _ => t ≤ target)
    (Duration.millis (target - f.now) + 1) f := ⟨_, rfl⟩
  have hawaits : g.Awaits target := hg ▸ awaits_runWhile hp ho hnow hle
  obtain ⟨h, c, hown⟩ := exists_course_runWhile (fun t _ => t ≤ target)
    (Duration.millis (target - f.now) + 1) f
  rw [← hg] at c
  have hfinal : f.advanceTo target = g.after (.pass (max g.now target)) := by
    rw [hg]
    rfl
  rw [hfinal]
  refine ⟨max_eq_right hawaits.now_le, _, c.go (.pass (max g.now target)) (le_max_left _ _), ?_⟩
  rw [List.forall_mem_cons]
  refine ⟨fun m => Scene.isPunctual_pass fun d hd _ => ?_,
    fun s hs m => c.isPunctual_of_own hown hnow m s hs⟩
  exact max_le_max_left _ (hawaits.lt_due d hd).le

/-- The member is woken or the clock goes on, on time for the member. -/
structure Scene.AttendsTo (s : Scene) (m : Member) : Prop where
  moves : s.move = .wake m ∨ ∃ t, s.move = .pass t
  punctual : s.IsPunctual m

theorem Scene.attendsTo_pass (hstops : (Move.pass target).StopsFor f m) :
    Scene.AttendsTo ⟨f, .pass target⟩ m :=
  ⟨.inr ⟨target, rfl⟩, Scene.isPunctual_pass hstops⟩

theorem exists_course_wakes (hp : Paced f) (hticks : ∀ k, m ≠ .worker k) :
    ∃ h g, Course f h g ∧ g.now = f.now ∧ (∀ s ∈ h, s.move = .wake m ∧ s.before.now = f.now) ∧
      ∀ d ∈ g.duties, d.2 = m → f.now < d.1 := by
  induction hload : f.load using Nat.strong_induction_on generalizing f with
  | _ k ih =>
    by_cases hquiet : ∀ d ∈ f.duties, d.2 = m → f.now < d.1
    · exact ⟨[], f, .stay, rfl, List.forall_mem_nil _, hquiet⟩
    · push Not at hquiet
      obtain ⟨⟨due, m⟩, hd, rfl, hle⟩ := hquiet
      have hpossible : Move.IsPossible f (.wake m) := ⟨_, hd, hle, rfl⟩
      obtain ⟨h, g, c, hnow, hwakes, hquiet⟩ :=
        ih _ (hload ▸ load_wake_lt_of_ticks hp hticks hd hle) (hp.wake m) rfl
      rw [now_wake] at hnow hwakes hquiet
      refine ⟨h ++ [⟨f, .wake m⟩], g, (Course.stay.go _ hpossible).trans c, hnow, ?_, hquiet⟩
      exact List.forall_mem_append.mpr ⟨hwakes, List.forall_mem_singleton.mpr ⟨rfl, rfl⟩⟩

theorem exists_course_milli (hp : Paced f) (hticks : ∀ k, m ≠ .worker k)
    (hdue : ∀ d ∈ f.duties, d.2 = m → f.now ≤ Instant.ceilMilli d.1) (hlt : f.now < target) :
    ∃ h g, Course f h g ∧ (∀ s ∈ h, s.AttendsTo m) ∧ f.now < g.now ∧ g.now ≤ target ∧
      ∀ d ∈ g.duties, d.2 = m → g.now ≤ Instant.ceilMilli d.1 := by
  obtain ⟨i, hi⟩ : ∃ i, i = Instant.ceilMilli f.now := ⟨_, rfl⟩
  have hle : f.now ≤ i := hi ▸ Instant.le_ceilMilli f.now
  have hmilli : Duration.ofMillis 1 ∣ i := hi ▸ Instant.milli_dvd_ceilMilli f.now
  have hahead : ∀ d ∈ f.duties, d.2 = m → i ≤ Instant.ceilMilli d.1 := fun d hd hm =>
    hi.trans_le (Instant.ceilMilli_le (hdue d hd hm))
  have hstops : ∀ t ≤ i, (Move.pass t).StopsFor f m := fun t ht d hd hm =>
    (ht.trans (hahead d hd hm)).trans (le_max_right _ _)
  rcases le_or_gt target i with hlast | hfar
  · have clast := Course.stay.go (f := f) (.pass target) hlt.le
    exact ⟨_, _, clast, List.forall_mem_singleton.mpr (Scene.attendsTo_pass (hstops target hlast)),
      hlt, Nat.le_refl target, fun d hd hm => hlast.trans (hahead d hd hm)⟩
  · -- to the next whole millisecond, where the member has its turns, and on to the one after
    have cfirst := Course.stay.go (f := f) (.pass i) hle
    obtain ⟨h, g, cwakes, hnow, hwakes, hquiet⟩ :=
      exists_course_wakes (hp.course cfirst) hticks
    change g.now = i at hnow
    obtain ⟨j, hij, htarget, hj⟩ : ∃ j, i < j ∧ j ≤ target ∧ j ≤ i + Duration.ofMillis 1 :=
      ⟨min target (i + Duration.ofMillis 1), lt_min hfar (Nat.lt_add_of_pos_right (by decide)),
        min_le_left _ _, min_le_right _ _⟩
    have hnext : ∀ d ∈ g.duties, d.2 = m → j ≤ Instant.ceilMilli d.1 := fun d hd hm =>
      hj.trans (Instant.add_milli_le_ceilMilli hmilli (hquiet d hd hm))
    have clast := (cfirst.trans cwakes).go (.pass j) (hnow.trans_le hij.le)
    refine ⟨_, _, clast, ?_, hle.trans_lt hij, htarget, hnext⟩
    rw [List.forall_mem_cons, List.forall_mem_append, List.forall_mem_singleton]
    refine ⟨Scene.attendsTo_pass fun d hd hm => ?_, fun s hs => ?_,
      Scene.attendsTo_pass (hstops i le_rfl)⟩
    · exact (hnext d hd hm).trans (le_max_right _ _)
    · obtain ⟨hmove, hat⟩ := hwakes s hs
      exact ⟨.inl hmove, fun _ => hat ▸ hmilli, by rw [hmove]; trivial⟩

/-- Whatever the other members do, a heartbeat or a lock provider that is on time can go on so up to
any instant. -/
theorem exists_course_punctual (hp : Paced f) (hticks : ∀ k, m ≠ .worker k)
    (hdue : ∀ d ∈ f.duties, d.2 = m → f.now ≤ Instant.ceilMilli d.1) (hle : f.now ≤ target) :
    ∃ h g, Course f h g ∧ g.now = target ∧ ∀ s ∈ h, s.AttendsTo m := by
  induction hleft : target - f.now using Nat.strong_induction_on generalizing f with
  | _ left ih =>
    rcases hle.eq_or_lt with heq | hlt
    · exact ⟨[], f, .stay, heq, List.forall_mem_nil _⟩
    · obtain ⟨h, g, c, hall, hlater, hle', hdue'⟩ := exists_course_milli hp hticks hdue hlt
      obtain ⟨h', g', c', hnow, hall'⟩ :=
        ih (target - g.now) (by omega) (hp.course c) hdue' hle' rfl
      exact ⟨h' ++ h, g', c.trans c', hnow, List.forall_mem_append.mpr ⟨hall', hall⟩⟩

theorem Scene.AttendsTo.happenings_eq_nil {s : Scene} (ha : s.AttendsTo m)
    (hne : s.actor? ≠ some m) : s.happenings = [] := by
  rcases ha.moves with hmove | ⟨target, hmove⟩
  · exact absurd (by rw [Scene.actor?, hmove]) hne
  · obtain ⟨f, _⟩ := s
    cases hmove
    exact Scene.happenings_of_acts (s := ⟨f, .pass target⟩) (.refl f) rfl

end Fleet

end Rollcall
