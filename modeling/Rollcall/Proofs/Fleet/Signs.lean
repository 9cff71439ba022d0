import Rollcall.Proofs.Fleet.Roster
import Rollcall.Proofs.Fleet.Tolerance

/-!
# The latest sign of life

A heartbeat reports one instance all its life. If nobody else touches the record of that instance,
the record tells the time of the latest report that was believed, or of the registration if there
has been none.
-/

namespace Rollcall.Fleet

variable {f g : Fleet (Faulty Cluster)} {h : List Scene} {s : Scene} {n : Nat} {beat : Heartbeat}
  {id : InstanceId} {service address : String} {since last : Nat}

def Reports (f : Fleet (Faulty Cluster)) (n : Nat) (id : InstanceId) (service : String) : Prop :=
  n < f.admitted ∧ ∃ beat, f.heartbeats.get? n = some beat ∧ beat.call = .report id service

theorem Reports.after (hr : s.before.Reports n id service) : s.after.Reports n id service := by
  obtain ⟨hn, beat, hb, hcall⟩ := hr
  refine ⟨hn.trans_le s.admitted_le, ?_⟩
  rcases s.heartbeats_cases with heq | ⟨k, beat', hchange, heq⟩
  · exact ⟨beat, heq ▸ hb, hcall⟩
  · rw [heq, Table.get?_put]
    split_ifs with hk
    · refine ⟨beat', rfl, ?_⟩
      subst hk
      cases hchange with
      | woken hm hb' =>
        cases hb'.symm.trans hb
        rw [Heartbeat.call_next_wake, hcall]
      | signalled hm hb' =>
        cases hb'.symm.trans hb
        exact hcall
      | started hm hk => exact absurd hn (hk ▸ lt_irrefl _)
    · exact ⟨beat, hb, hcall⟩

theorem Course.reports (c : Course f h g) (hr : f.Reports n id service) :
    g.Reports n id service := by
  induction c with
  | stay => exact hr
  | go _ m _ ih => exact Reports.after (s := ⟨_, m⟩) ih

theorem Reports.happenings (hr : s.before.Reports n id service)
    (ha : s.actor? = some (.heartbeat n)) {x : Happening} (hx : x ∈ s.happenings) :
    ∃ r, x = .called (.report id service) r := by
  obtain ⟨-, beat, hb, hcall⟩ := hr
  have hafter : s.after = s.before.wake (.heartbeat n) := by
    rw [Scene.after, Scene.move_of_actor_heartbeat ha]
    rfl
  by_cases hreport : (beat.wake s.before.now).report = true
  · have hj : s.after.journal = (s.before.perform beat.call).2.journal := by
      rw [hafter]
      simp only [Fleet.wake, hb, hreport, if_true]
    rw [Scene.happenings_of_acts (acts_perform s.before beat.call) hj, List.mem_singleton] at hx
    exact hcall ▸ ⟨_, hx⟩
  · have hj : s.after.journal = s.before.journal := by
      rw [hafter]
      simp only [Fleet.wake, hb, hreport, if_false, Bool.false_eq_true]
    rw [Scene.happenings_of_acts (.refl s.before) hj] at hx
    cases hx

theorem Reports.of_touches (hr : s.before.Reports n id service)
    (ha : s.actor? = some (.heartbeat n)) {x : Happening} (hx : x ∈ s.happenings)
    {id' : InstanceId} {service' : String} (htouch : x.Touches id' service') :
    id' = id ∧ service' = service ∧ x = .called (.report id service) (.ok ()) := by
  obtain ⟨r, rfl⟩ := hr.happenings ha hx
  rcases htouch with ⟨_, heq⟩ | heq | heq
  · cases heq
  · cases heq
  · have hcall : (.report id service : Call) = .report id' service' := by injection heq
    cases hcall
    exact ⟨rfl, rfl, heq⟩

theorem Scene.record?_eq (hx : ∀ x ∈ s.happenings, ¬ x.Touches id service) :
    s.after.backend.record? service id = s.before.backend.record? service id := by
  obtain ⟨b, hu, hb, -⟩ := s.undergoes
  rw [← hu.record?_eq hx, Faulty.record?, Faulty.record?, hb]

theorem Course.record?_eq (c : Course f h g)
    (hx : ∀ s ∈ h, ∀ x ∈ s.happenings, ¬ x.Touches id service) :
    g.backend.record? service id = f.backend.record? service id := by
  induction c with
  | stay => rfl
  | go _ m _ ih =>
    rw [List.forall_mem_cons] at hx
    exact (Scene.record?_eq (s := ⟨_, m⟩) hx.1).trans (ih hx.2)

/-- The last sign of life since the registration: the registration itself, or a report that was
believed, with no such report after it. -/
structure IsLatestSign (h : List Scene) (id : InstanceId) (service : String) (since last : Nat) :
    Prop where
  is_sign : last = since ∨
    ∃ s ∈ h, s.before.now = last ∧ .called (.report id service) (.ok ()) ∈ s.happenings
  since_le : since ≤ last
  latest : ∀ s ∈ h, .called (.report id service) (.ok ()) ∈ s.happenings → s.before.now ≤ last

theorem IsLatestSign.cons (hl : IsLatestSign h id service since last)
    (hs : .called (.report id service) (.ok ()) ∉ s.happenings) :
    IsLatestSign (s :: h) id service since last where
  is_sign := hl.is_sign.imp_right fun ⟨s', hs', hsign⟩ => ⟨s', List.mem_cons_of_mem s hs', hsign⟩
  since_le := hl.since_le
  latest := List.forall_mem_cons.mpr ⟨fun hreport => absurd hreport hs, hl.latest⟩

theorem IsLatestSign.reported (hl : IsLatestSign h id service since last)
    (hle : last ≤ s.before.now) (hs : .called (.report id service) (.ok ()) ∈ s.happenings) :
    IsLatestSign (s :: h) id service since s.before.now where
  is_sign := .inr ⟨s, List.mem_cons_self, rfl, hs⟩
  since_le := hl.since_le.trans hle
  latest := List.forall_mem_cons.mpr
    ⟨fun _ => le_rfl, fun s' hs' hreport => (hl.latest s' hs' hreport).trans hle⟩

/-- A record that nobody but a heartbeat touches tells the latest sign of life. -/
theorem Course.exists_latestSign (c : Course f h g)
    (hrecord : f.backend.record? service id = some ⟨address, f.now⟩)
    (hx : ∀ s ∈ h, ∀ x ∈ s.happenings, x.Touches id service →
      x = .called (.report id service) (.ok ())) :
    ∃ last, g.backend.record? service id = some ⟨address, last⟩ ∧ last ≤ g.now ∧
      IsLatestSign h id service f.now last := by
  induction c with
  | stay => exact ⟨f.now, hrecord, le_rfl, .inl rfl, le_rfl, nofun⟩
  | @go h g c m hm ih =>
    rw [List.forall_mem_cons] at hx
    obtain ⟨last, hbefore, hle, hlatest⟩ := ih hx.2
    have hnow : g.now ≤ (g.after m).now := Scene.now_le (s := ⟨g, m⟩) hm
    obtain ⟨b, hu, hb, -⟩ := Scene.undergoes ⟨g, m⟩
    have hafter : (g.after m).backend.record? service id = b.record? service id := by
      unfold Faulty.record?
      exact congrArg (fun b => b.registry.records.get? (service, id)) hb
    rw [hafter]
    rcases hu.record?_of_reports hbefore hx.1 with ⟨hreport, heq⟩ | ⟨hreport, heq⟩
    · exact ⟨g.now, heq, hnow, hlatest.reported (s := ⟨g, m⟩) hle hreport⟩
    · exact ⟨last, heq, hle.trans hnow, hlatest.cons (s := ⟨g, m⟩) hreport⟩

end Rollcall.Fleet
