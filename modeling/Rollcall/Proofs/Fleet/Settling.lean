import Rollcall.Proofs.Fleet.Schedule
import Rollcall.Proofs.Fleet.Silence

/-!
# A fleet that settles

To settle is a course in which due members are woken, one after the other. Each turn brings its
member nearer to having nothing to do at the instant, so the turns that a fleet gives itself are
enough; and a heartbeat that has been told to stop is among the first to get one.
-/

namespace Rollcall

namespace Heartbeat

variable {beat : Heartbeat} {now t : Nat}

def rank (now : Nat) (beat : Heartbeat) : Nat :=
  if beat.ended then 0
  else if beat.signal.value then 1
  else (if beat.ticker.due ≤ now then 1 else 0) + (if beat.signal.isNews then 1 else 0) +
    (if beat.signal.isDropped then 1 else 0)

theorem rank_le (now : Nat) (beat : Heartbeat) : beat.rank now ≤ 3 := by
  unfold rank
  split_ifs <;> omega

theorem value_next_wake (beat : Heartbeat) (now : Nat) :
    (beat.wake now).next.signal.value = beat.signal.value := by
  unfold wake
  split_ifs <;> rfl

theorem rank_wake_lt (hdue : beat.due = some t) (ht : t ≤ now)
    (hp : Ticker.slack < beat.ticker.period) : (beat.wake now).next.rank now < beat.rank now := by
  have htick : ¬ (beat.ticker.advance now).due ≤ now := not_le.mpr (Ticker.lt_due_advance hp)
  unfold due at hdue
  unfold wake
  split_ifs at hdue with hended hstirs
  · -- there is something to notice
    by_cases hvalue : beat.signal.value = true
    · simp [rank, hended, hvalue]
    · have hnotice : beat.signal.isNews = true ∨ beat.signal.isDropped = true := by
        simpa [Signal.stirs, hvalue] using hstirs
      by_cases hlate : beat.ticker.due ≤ now
      · simp [rank, hended, hvalue, hlate, htick]
      · by_cases hnews : beat.signal.isNews = true
        · simp [rank, hended, hvalue, hlate, hnews, Signal.look]
        · have hdropped := hnotice.resolve_left hnews
          simp [rank, hended, hvalue, hlate, hnews, hdropped]
  · -- the tick is due
    cases hdue
    have hquiet : beat.signal.value = false ∧ beat.signal.stirs = false := by
      simpa using hstirs
    simp [rank, hended, hquiet.1, ht, htick]

end Heartbeat

namespace Fleet

variable {f g : Fleet (Faulty Cluster)} {n : Nat} {beat : Heartbeat}

/-- The move is one that a fleet makes of itself: a member is woken, or the clock goes on. -/
def Move.IsInner : Move → Prop
  | .wake _ | .pass _ => True
  | _ => False

theorem exists_course_settleWithin (f : Fleet (Faulty Cluster)) (fuel : Nat) :
    ∃ h, Course f h (settleWithin fuel f) ∧ ∀ s ∈ h, ∃ m, s.move = .wake m := by
  induction fuel generalizing f with
  | zero => exact ⟨[], .stay, nofun⟩
  | succ fuel ih =>
    simp only [Fleet.settleWithin]
    split
    · next t m hfirst =>
      split_ifs with ht
      · obtain ⟨h, c, hwakes⟩ := ih (f.wake m)
        have hpossible : Move.IsPossible f (.wake m) := ⟨_, (earliest_spec hfirst).1, ht, rfl⟩
        refine ⟨h ++ [⟨f, .wake m⟩], (Course.stay.go _ hpossible).trans c, fun s hs => ?_⟩
        rcases List.mem_append.mp hs with hs | hs
        · exact hwakes s hs
        · exact ⟨m, by rw [List.mem_singleton.mp hs]⟩
      · exact ⟨[], .stay, nofun⟩
    · exact ⟨[], .stay, nofun⟩

theorem exists_course_settle (f : Fleet (Faulty Cluster)) :
    ∃ h, Course f h f.settle ∧ ∀ s ∈ h, ∃ m, s.move = .wake m :=
  exists_course_settleWithin f _

/-- A fleet that wakes its first member until something is done gets it done if each turn before
that lowers a measure, and the measure is no greater than the number of turns. -/
theorem settleWithin_of_measure (Inv Done : Fleet (Faulty Cluster) → Prop)
    (measure : Fleet (Faulty Cluster) → Nat)
    (hstep : ∀ f, Inv f → ¬ Done f → ∃ t m, f.earliest = some (t, m) ∧ t ≤ f.now ∧
      Inv (f.wake m) ∧ measure (f.wake m) < measure f)
    (hdone : ∀ f m, Inv f → Done f → (∃ t, f.earliest = some (t, m) ∧ t ≤ f.now) →
      Inv (f.wake m) ∧ Done (f.wake m))
    (hinv : Inv f) {fuel : Nat} (hfuel : measure f ≤ fuel) :
    Inv (settleWithin fuel f) ∧ Done (settleWithin fuel f) := by
  induction fuel generalizing f with
  | zero =>
    refine ⟨hinv, ?_⟩
    by_contra hnot
    obtain ⟨-, m, -, -, -, hlt⟩ := hstep f hinv hnot
    omega
  | succ fuel ih =>
    by_cases hd : Done f
    · -- what is done stays done in the turns that are left
      clear ih hfuel
      generalize fuel + 1 = fuel
      induction fuel generalizing f with
      | zero => exact ⟨hinv, hd⟩
      | succ fuel ih =>
        simp only [Fleet.settleWithin]
        split
        · next t m hfirst =>
          split_ifs with ht
          · obtain ⟨hinv', hd'⟩ := hdone f m hinv hd ⟨t, hfirst, ht⟩
            exact ih hinv' hd'
          · exact ⟨hinv, hd⟩
        · exact ⟨hinv, hd⟩
    · obtain ⟨t, m, hfirst, ht, hinv', hlt⟩ := hstep f hinv hd
      simp only [Fleet.settleWithin, hfirst, ht, if_true]
      exact ih hinv' (by omega)

theorem heartbeat_of_mem_duties (hu : f.heartbeats.Unique) {t : Nat}
    (hm : (t, .heartbeat n) ∈ f.duties) :
    ∃ beat, f.heartbeats.get? n = some beat ∧ beat.due = some t := by
  simp only [duties, List.mem_append, List.mem_filterMap, List.mem_map, Option.map_eq_some_iff,
    Prod.mk.injEq, reduceCtorEq, and_false, exists_false, or_false, Member.heartbeat.injEq] at hm
  obtain ⟨⟨k, beat⟩, hmem, _, hdue, rfl, rfl⟩ := hm
  exact ⟨beat, hu.get?_of_mem hmem, hdue⟩

theorem foldl_earliest_of_zero (l : List (Nat × Member)) (m : Member) :
    l.foldl (fun best d =>
      match best with
      | none => some d
      | some b => if d.1 < b.1 then some d else some b) (some (0, m)) = some (0, m) := by
  induction l with
  | nil => rfl
  | cons d l ih => simpa using ih

/-- If a heartbeat has something to notice, a heartbeat is the first to be woken. -/
theorem exists_earliest_heartbeat (hb : f.heartbeats.get? n = some beat)
    (hdue : beat.due = some 0) : ∃ k, f.earliest = some (0, .heartbeat k) := by
  -- heartbeats come first in the list of duties, so it is enough to look at them alone
  let beats : Fleet (Faulty Cluster) :=
    { backend := f.backend, now := f.now, heartbeats := f.heartbeats }
  have hmem : (0, .heartbeat n) ∈ beats.duties := mem_duties_heartbeat (f := beats) hb hdue
  obtain ⟨others, hduties⟩ : ∃ others, f.duties = beats.duties ++ others := by
    obtain ⟨first, second, third, hf, hbeats⟩ : ∃ first second third,
        f.duties = first ++ second ++ third ∧ beats.duties = first :=
      ⟨_, _, _, rfl, by simp [duties, beats, Table.empty]⟩
    exact ⟨second ++ third, by rw [hf, hbeats, List.append_assoc]⟩
  cases hfirst : beats.earliest with
  | none =>
    rw [earliest_eq_none hfirst] at hmem
    exact absurd hmem List.not_mem_nil
  | some d =>
    obtain ⟨t, m⟩ := d
    obtain ⟨hd, hle⟩ := earliest_spec hfirst
    obtain rfl : t = 0 := Nat.le_zero.mp (hle _ hmem)
    obtain ⟨k, rfl⟩ : ∃ k, m = .heartbeat k := by
      simp only [duties, beats, Table.empty, List.map_nil, List.filterMap_nil, List.append_nil,
        List.mem_filterMap, Option.map_eq_some_iff, Prod.mk.injEq] at hd
      obtain ⟨⟨k, _⟩, -, _, -, -, rfl⟩ := hd
      exact ⟨k, rfl⟩
    refine ⟨k, ?_⟩
    unfold earliest at hfirst ⊢
    rw [hduties, List.foldl_append, hfirst]
    exact foldl_earliest_of_zero _ _

def IsTold (f : Fleet (Faulty Cluster)) (n : Nat) : Prop :=
  ∃ beat, f.heartbeats.get? n = some beat ∧ beat.signal.value = true

theorem IsTold.wake (ht : f.IsTold n) (m : Member) : (f.wake m).IsTold n := by
  obtain ⟨beat, hb, hvalue⟩ := ht
  cases m with
  | lock k => exact ⟨beat, (congrArg (·.get? n) (heartbeats_wake_lock f k)).trans hb, hvalue⟩
  | worker k => exact ⟨beat, (congrArg (·.get? n) (heartbeats_wake_worker f k)).trans hb, hvalue⟩
  | heartbeat k =>
    cases hk : f.heartbeats.get? k with
    | none => exact ⟨beat, by rw [wake_heartbeat_of_none hk, hb], hvalue⟩
    | some other =>
      unfold IsTold
      rw [heartbeats_wake_heartbeat hk, Table.get?_put]
      split_ifs with hn
      · subst hn
        cases hb.symm.trans hk
        exact ⟨_, rfl, (Heartbeat.value_next_wake beat f.now).trans hvalue⟩
      · exact ⟨beat, hb, hvalue⟩

theorem heartbeatIsOver_wake (ho : f.heartbeatIsOver n = true) (m : Member) :
    (f.wake m).heartbeatIsOver n = true := by
  by_cases hm : m = .heartbeat n
  · exact hm ▸ (wake_heartbeat_of_over ho).2
  · refine (heartbeatIsOver_of_get? (f := f) ?_).trans ho
    cases m with
    | lock k => rw [heartbeats_wake_lock]
    | worker k => rw [heartbeats_wake_worker]
    | heartbeat k =>
      cases hk : f.heartbeats.get? k with
      | none => rw [wake_heartbeat_of_none hk]
      | some beat =>
        rw [heartbeats_wake_heartbeat hk, Table.get?_put, if_neg]
        rintro rfl
        exact hm rfl

theorem now_wake (f : Fleet (Faulty Cluster)) (m : Member) : (f.wake m).now = f.now :=
  (Scene.now_cases ⟨f, .wake m⟩).resolve_right nofun

theorem Paced.wake (hp : Paced f) (m : Member) : Paced (f.wake m) :=
  Paced.after (s := ⟨f, .wake m⟩) hp

theorem total_rank_wake_lt (hp : Paced f) {k t : Nat} (hm : (t, .heartbeat k) ∈ f.duties)
    (ht : t ≤ f.now) :
    (f.wake (.heartbeat k)).heartbeats.total (Heartbeat.rank f.now) <
      f.heartbeats.total (Heartbeat.rank f.now) := by
  obtain ⟨beat, hb, hdue⟩ := heartbeat_of_mem_duties hp.heartbeats_unique hm
  have hlt := Heartbeat.rank_wake_lt hdue ht (hp.heartbeats k beat hb)
  have hrest := hp.heartbeats_unique.total_erase hb (Heartbeat.rank f.now)
  rw [heartbeats_wake_heartbeat hb, Table.total_put]
  omega

/-- A fleet that settles ends every heartbeat that was told to stop. -/
theorem heartbeatIsOver_settle (hp : Paced f) (ht : f.IsTold n) :
    f.settle.heartbeatIsOver n = true := by
  suffices hsettled : (Paced f.settle ∧ f.settle.IsTold n ∧ f.settle.now = f.now) ∧
      f.settle.heartbeatIsOver n = true from hsettled.2
  refine settleWithin_of_measure (fun g => Paced g ∧ g.IsTold n ∧ g.now = f.now)
    (fun g => g.heartbeatIsOver n = true)
    (fun g => g.heartbeats.total (Heartbeat.rank f.now))
    (fun g ⟨hp, ht, hnow⟩ hnot => ?_) (fun g m ⟨hp, ht, hnow⟩ hover _ => ?_) ⟨hp, ht, rfl⟩ ?_
  · obtain ⟨beat, hb, hvalue⟩ := ht
    have hended : beat.ended = false := by
      unfold heartbeatIsOver at hnot
      rw [hb] at hnot
      exact Bool.eq_false_iff.mpr hnot
    have hdue : beat.due = some 0 := by simp [Heartbeat.due, hended, hvalue]
    obtain ⟨k, hfirst⟩ := exists_earliest_heartbeat hb hdue
    have hlt := total_rank_wake_lt hp (earliest_spec hfirst).1 (Nat.zero_le _)
    rw [hnow] at hlt
    exact ⟨0, .heartbeat k, hfirst, Nat.zero_le _,
      ⟨hp.wake _, IsTold.wake ⟨beat, hb, hvalue⟩ _, (now_wake g _).trans hnow⟩, hlt⟩
  · exact ⟨⟨hp.wake m, ht.wake m, (now_wake g m).trans hnow⟩, heartbeatIsOver_wake hover m⟩
  · have hle := f.heartbeats.total_le (Heartbeat.rank_le f.now)
    omega

end Fleet

end Rollcall
