import Rollcall.Proofs.Fleet.Run

/-!
# The schedule of a fleet

Left to itself a fleet wakes the member that is due first, and lets the clock go on to the
millisecond in which the next one is due. This is one of the orders in which a run may go on, so
what holds in every run holds of every fleet that settles, leaps, or goes on for a while.
-/

namespace Rollcall.Fleet

variable {f : Fleet (Faulty Cluster)}

theorem foldl_earliest {l : List (Nat × Member)} {best : Option (Nat × Member)}
    {d : Nat × Member}
    (h : l.foldl (fun best d =>
      match best with
      | none => some d
      | some b => if d.1 < b.1 then some d else some b) best = some d) :
    (best = some d ∨ d ∈ l) ∧ (∀ b, best = some b → d.1 ≤ b.1) ∧ ∀ c ∈ l, d.1 ≤ c.1 := by
  induction l generalizing best with
  | nil =>
    subst h
    exact ⟨.inl rfl, fun b hb => by cases hb; exact le_rfl, by simp⟩
  | cons c l ih =>
    obtain ⟨hmem, hbest, hall⟩ := ih h
    cases best with
    | none =>
      have hc := hbest c rfl
      refine ⟨.inr ?_, nofun, List.forall_mem_cons.mpr ⟨hc, hall⟩⟩
      rcases hmem with heq | hmem
      · cases heq
        exact List.mem_cons_self
      · exact List.mem_cons_of_mem _ hmem
    | some b =>
      have hb : d.1 ≤ b.1 ∧ d.1 ≤ c.1 := by
        have := hbest
        simp only at this
        split_ifs at this with hlt
        · have := this c rfl
          omega
        · have := this b rfl
          omega
      refine ⟨?_, fun x hx => by cases hx; exact hb.1, List.forall_mem_cons.mpr ⟨hb.2, hall⟩⟩
      rcases hmem with heq | hmem
      · simp only at heq
        split_ifs at heq
        · cases heq
          exact .inr List.mem_cons_self
        · exact .inl heq
      · exact .inr (List.mem_cons_of_mem _ hmem)

theorem earliest_spec {t : Nat} {m : Member} (h : f.earliest = some (t, m)) :
    (t, m) ∈ f.duties ∧ ∀ d ∈ f.duties, t ≤ d.1 := by
  obtain ⟨hmem, -, hall⟩ := foldl_earliest h
  rcases hmem with heq | hmem
  · cases heq
  · exact ⟨hmem, hall⟩

theorem earliest_eq_none (h : f.earliest = none) : f.duties = [] := by
  have hsome : ∀ (l : List (Nat × Member)) (b : Nat × Member), l.foldl (fun best d =>
      match best with
      | none => some d
      | some b => if d.1 < b.1 then some d else some b) (some b) ≠ none := by
    intro l
    induction l with
    | nil => intro b; exact Option.some_ne_none b
    | cons c l ih =>
      intro b
      simp only [List.foldl_cons]
      split_ifs
      · exact ih c
      · exact ih b
  unfold earliest at h
  cases hd : f.duties with
  | nil => rfl
  | cons d l =>
    rw [hd] at h
    exact absurd h (hsome l d)

theorem Reachable.settleWithin (h : Reachable f) (fuel : Nat) :
    Reachable (settleWithin fuel f) := by
  induction fuel generalizing f with
  | zero => exact h
  | succ fuel ih =>
    simp only [Fleet.settleWithin]
    split
    · next t m hfirst =>
      split_ifs with ht
      · exact ih (h.step (.wake (earliest_spec hfirst).1 ht))
      · exact h
    · exact h

theorem Reachable.settle (h : Reachable f) : Reachable f.settle :=
  h.settleWithin _

theorem mem_duties_lock {n : Nat} {l : Tenancy} (hl : f.locks.get? n = some l) :
    (l.provider.ticker.due, .lock n) ∈ f.duties := by
  refine List.mem_append_left _ (List.mem_append_right _ ?_)
  exact List.mem_map.mpr ⟨(n, l), Table.mem_entries_of_get? hl, rfl⟩

theorem ceilMilli_mono {i j : Nat} (h : i ≤ j) : Instant.ceilMilli i ≤ Instant.ceilMilli j :=
  Nat.mul_le_mul_right _ (Nat.div_le_div_right (Nat.add_le_add_right h _))

/-- A fleet may go on from duty to duty for as long as one likes. -/
theorem Reachable.runWhile (h : Reachable f) (go : Nat → Fleet (Faulty Cluster) → Bool)
    (fuel : Nat) : Reachable (runWhile go fuel f) := by
  induction fuel generalizing f with
  | zero => exact h
  | succ fuel ih =>
    simp only [Fleet.runWhile]
    split
    · next t m hfirst =>
      split_ifs
      · have hpass : Step f { f with now := max f.now (Instant.ceilMilli t) } := by
          refine .pass (le_max_left _ _) fun n l hl => max_le_max_left _ (ceilMilli_mono ?_)
          exact (earliest_spec hfirst).2 _ (mem_duties_lock hl)
        exact ih (h.step hpass).settle
      · exact h
    · exact h

/-- A fleet may go on up to an instant, if by then no more is due before it. -/
theorem Reachable.advanceTo (h : Reachable f) {target : Nat}
    (hrest : ∀ t m, (Fleet.runWhile (fun t _ => t ≤ target) (Duration.millis (target - f.now) + 1)
      f).earliest = some (t, m) → target ≤ Instant.ceilMilli t) :
    Reachable (f.advanceTo target) := by
  refine (h.runWhile _ _).step (.pass (le_max_left _ _) fun n l hl => ?_)
  have hduty := mem_duties_lock hl
  cases hfirst : (Fleet.runWhile (fun t _ => t ≤ target) (Duration.millis (target - f.now) + 1)
    f).earliest with
  | none =>
    rw [earliest_eq_none hfirst] at hduty
    exact absurd hduty List.not_mem_nil
  | some d =>
    have hle := (earliest_spec hfirst).2 _ hduty
    exact max_le_max_left _ ((hrest _ _ hfirst).trans (ceilMilli_mono hle))

theorem Reachable.jump (h : Reachable f) {target : Nat} (hnow : f.now ≤ target)
    (hdue : ∀ n l, f.locks.get? n = some l →
      f.now ≤ l.provider.ticker.due ∧ target - f.now ≤ l.provider.ttl / 2) :
    Reachable (f.jump target) :=
  (h.step (.leap hnow hdue)).settle

theorem Reachable.joinWorker (h : Reachable f) (n : Nat) : Reachable (f.joinWorker n) :=
  h.settle.runWhile _ _

theorem Reachable.runOnce (h : Reachable f) {lock : Nat} {p : Processor} (hready : p.phase = .ready)
    (hjob : Work.KeepsOffLocks p.job.plan) (hlock : f.isInUse lock = false) :
    Reachable (f.runOnce lock p).2 := by
  have hidle : p.isAtWork = false := by rw [Processor.isAtWork, hready]
  have hstart := h.step (.startWorker hidle hjob hlock)
  have hduty : (0, .worker f.admitted) ∈ (f.startWorker lock p).2.duties := by
    refine List.mem_append_right _ (List.mem_filterMap.mpr ⟨(f.admitted, ⟨p, lock⟩), ?_, ?_⟩)
    · exact List.mem_cons_self
    · simp [Processor.due, hready]
  exact ((hstart.step (.wake hduty (Nat.zero_le _))).runWhile _ _).step .dismissWorker

end Rollcall.Fleet
