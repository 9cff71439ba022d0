import Rollcall.Proofs.Audit.Reads
import Rollcall.Proofs.Data.SortedSet

/-!
# Audits and transient failures

Suppose that the registry stands still, and that reads of it fail now and then, in ways that a later
attempt may not meet, and never as often in a row as there are attempts. Then an audit counts the
live instances of each service as if no read had failed. But the second read, from which one of them
is chosen, is not tried again: if it fails, none is chosen, or the audit fails, and that depends on
the kind of the failure. It is the only read whose failure shows.
-/

namespace Rollcall.Audit

/-- The addresses of the live instances of a service, as often as there are instances at them. -/
def located (r : Registry) (now : ℕ) (service : String) : List String :=
  ((r.recordsOf service).filter (r.isLive now)).map (·.address)

/-- Another attempt helps against every failure, and there are attempts enough. -/
structure IsTransient (policy : RetryPolicy) (fails : ℕ → Option Error) : Prop where
  isRetryable : ∀ j e, fails j = some e → e.isRetryable = true
  exists_none : ∀ j, ∃ k < policy.attempts, fails (j + k) = none

/-- How the second reads of the services fail, if they are read one after the other from call `n`
on. The first read of a service is the first that does not fail; if it finds nobody there is no
second one. -/
inductive SecondReads (r : Registry) (now : ℕ) (fails : ℕ → Option Error) :
    ℕ → List String → List (Option Error) → Prop
  | nil (n : ℕ) : SecondReads r now fails n [] []
  | absent {n k service services faults} (hbefore : ∀ j < k, (fails (n + j)).isSome)
      (hread : fails (n + k) = none) (hlive : located r now service = [])
      (h : SecondReads r now fails (n + k + 1) services faults) :
      SecondReads r now fails n (service :: services) (none :: faults)
  | present {n k service services faults} (hbefore : ∀ j < k, (fails (n + j)).isSome)
      (hread : fails (n + k) = none) (hlive : located r now service ≠ [])
      (h : SecondReads r now fails (n + k + 2) services faults) :
      SecondReads r now fails n (service :: services) (fails (n + k + 1) :: faults)

/-- The failure with which an audit ends that meets with it in a second read. -/
def ending (fault : Option Error) : Option Error := fault.filter (·.kind ≠ .unavailable)

/-- What is reported of a service whose second read failed, or did not: all that may be missing is
the choice of an instance. -/
structure IsEntry (r : Registry) (now : ℕ) (service : String) (fault : Option Error)
    (one : ServiceAudit) : Prop where
  service_eq : one.service = service
  live_eq : one.live = (located r now service).toFinset.card
  isSome_picked_iff : one.picked.isSome ↔ 0 < one.live ∧ fault = none
  mem_of_picked : ∀ address, one.picked = some address → address ∈ located r now service

section Registry

variable {r : Registry} {now : ℕ} {service : String}

theorem length_liveAddresses (r : Registry) (now : ℕ) (service : String) :
    (r.liveAddresses now service).length = (located r now service).toFinset.card := by
  have hset : (r.liveAddresses now service).toFinset = (located r now service).toFinset := by
    ext address
    rw [List.mem_toFinset, List.mem_toFinset]
    exact SortedSet.mem_ofList
  have hnodup : (r.liveAddresses now service).Nodup := SortedSet.nodup_ofList _
  rw [← hset, List.toFinset_card_of_nodup hnodup]

theorem addresses_of_absent (h : located r now service = []) :
    r.addresses now service = .error (.notFound (Error.noLiveInstances service)) := by
  have hnil : r.liveAddresses now service = [] := SortedSet.ofList_eq_nil_iff.mpr h
  unfold Registry.addresses
  rw [hnil]

theorem addresses_of_present (h : located r now service ≠ []) :
    r.addresses now service = .ok (r.liveAddresses now service) := by
  have hne : r.liveAddresses now service ≠ [] := SortedSet.ofList_eq_nil_iff.not.mpr h
  unfold Registry.addresses
  split
  · next hnil => exact absurd hnil hne
  · rfl

theorem of_addresses_eq_ok {live : List String} (h : r.addresses now service = .ok live) :
    located r now service ≠ [] ∧ r.liveAddresses now service = live := by
  by_cases hlive : located r now service = []
  · cases (addresses_of_absent hlive).symm.trans h
  · exact ⟨hlive, Except.ok.inj ((addresses_of_present hlive).symm.trans h)⟩

end Registry

variable {b : Cluster} {now n m k : ℕ} {fails : ℕ → Option Error} {policy : RetryPolicy}
  {service : String} {services : List String} {faults : List (Option Error)}
  {result : Except Error ServiceAudit} {s : Position}

theorem exists_secondReads (ht : IsTransient policy fails) (r : Registry) (now n : ℕ)
    (services : List String) : ∃ faults, SecondReads r now fails n services faults := by
  induction services generalizing n with
  | nil => exact ⟨_, .nil n⟩
  | cons service services ih =>
    obtain ⟨l, -, hl⟩ := ht.exists_none n
    have hfirst : ∃ k, fails (n + k) = none := ⟨l, hl⟩
    have hbefore : ∀ j < Nat.find hfirst, (fails (n + j)).isSome := fun j hj =>
      Option.isSome_iff_ne_none.mpr (Nat.find_min hfirst hj)
    by_cases hlive : located r now service = []
    · obtain ⟨faults, h⟩ := ih (n + Nat.find hfirst + 1)
      exact ⟨_, .absent hbefore (Nat.find_spec hfirst) hlive h⟩
    · obtain ⟨faults, h⟩ := ih (n + Nat.find hfirst + 2)
      exact ⟨_, .present hbefore (Nat.find_spec hfirst) hlive h⟩

theorem SecondReads.length_eq {r : Registry} (h : SecondReads r now fails n services faults) :
    faults.length = services.length := by
  induction h with
  | nil => rfl
  | absent _ _ _ _ ih => rw [List.length_cons, List.length_cons, ih]
  | present _ _ _ _ ih => rw [List.length_cons, List.length_cons, ih]

/-- The last attempt at a read is the first that does not fail. -/
theorem IsTransient.of_isLast (ht : IsTransient policy fails)
    (hlast : policy.IsLast (fun j => read (standing b now fails) service (n + j)) k) :
    (∀ j < k, (fails (n + j)).isSome) ∧ fails (n + k) = none := by
  have hover : ∀ {j}, fails (n + j) = none →
      RetryPolicy.isTransient (read (standing b now fails) service (n + j)) = false := by
    intro j h
    rw [read_standing_of_none h]
    by_cases hlive : located b.registry now service = []
    · rw [addresses_of_absent hlive]
      rfl
    · rw [addresses_of_present hlive]
      rfl
  have hbefore : ∀ j < k, (fails (n + j)).isSome := by
    intro j hj
    rw [Option.isSome_iff_ne_none]
    intro h
    exact absurd ((hlast.transient_before j hj).symm.trans (hover h)) (by decide)
  refine ⟨hbefore, ?_⟩
  by_contra h
  obtain ⟨e, he⟩ := Option.ne_none_iff_exists'.mp h
  have hagain : RetryPolicy.isTransient (read (standing b now fails) service (n + k)) = true := by
    rw [read_standing_of_some he]
    exact ht.isRetryable _ e he
  rcases hlast.is_over with hdone | hdone
  · exact absurd (hagain.symm.trans hdone) (by decide)
  · -- as many failures in a row as there are attempts
    obtain ⟨l, hl, hnone⟩ := ht.exists_none n
    rcases Nat.lt_or_ge l k with hlt | hge
    · exact absurd hnone (Option.isSome_iff_ne_none.mp (hbefore l hlt))
    · obtain rfl : l = k := by omega
      exact h hnone

theorem ending_of_unavailable {e : Error} (h : e.kind = .unavailable) : ending (some e) = none := by
  simp [ending, Option.filter, h]

theorem ending_of_ne {e : Error} (h : e.kind ≠ .unavailable) : ending (some e) = some e := by
  simp [ending, Option.filter, h]

theorem Samples.of_transient {i : ℕ} {sampled : Except Error (Option String)}
    (ht : IsTransient policy fails) (hlive : located b.registry now service ≠ [])
    (h : Samples (read (standing b now fails) service i) sampled) :
    (fails i = none ∧ ∃ address ∈ located b.registry now service, sampled = .ok (some address)) ∨
      (∃ e, fails i = some e ∧ e.kind = .unavailable ∧ sampled = .ok none) ∨
      ∃ e, fails i = some e ∧ e.kind ≠ .unavailable ∧ sampled = .error e := by
  cases hfails : fails i with
  | none =>
    rw [read_standing_of_none hfails, addresses_of_present hlive] at h
    generalize hl : b.registry.liveAddresses now service = live at h
    cases h with
    | picked hmem =>
      subst hl
      exact .inl ⟨rfl, _, SortedSet.mem_ofList.mp hmem, rfl⟩
    | empty => exact absurd (SortedSet.ofList_eq_nil_iff.mp hl) hlive
  | some e =>
    right
    rw [read_standing_of_some hfails] at h
    cases h with
    | gone hgone =>
      have hretry : e.kind.isRetryable = true := ht.isRetryable i e hfails
      have hfound : e.kind ≠ .notFound := fun h => by
        rw [h] at hretry
        cases hretry
      exact .inl ⟨e, rfl, hgone.resolve_left hfound, rfl⟩
    | failed _ havailable => exact .inr ⟨e, rfl, havailable, rfl⟩

/-- All that shows of a second read that fails is that no instance is chosen, unless it ends the
audit. -/
theorem Yields.of_transient (ht : IsTransient policy fails)
    (h : Yields (standing b now fails) policy service n result m) : ∃ fault,
      (∀ services faults, SecondReads b.registry now fails m services faults →
        SecondReads b.registry now fails n (service :: services) (fault :: faults)) ∧
      (∀ e, ending fault = some e → result = .error e) ∧
      (ending fault = none → ∃ one, result = .ok one ∧
        IsEntry b.registry now service fault one) := by
  have hcount := length_liveAddresses b.registry now service
  cases h with
  | failed hlast hread hfound =>
    rw [read_standing_of_none (ht.of_isLast hlast).2] at hread
    by_cases hlive : located b.registry now service = []
    · cases (addresses_of_absent hlive).symm.trans hread
      exact absurd rfl hfound
    · cases (addresses_of_present hlive).symm.trans hread
  | absent hlast hread =>
    obtain ⟨hbefore, hnone⟩ := ht.of_isLast hlast
    rw [read_standing_of_none hnone] at hread
    by_cases hlive : located b.registry now service = []
    · refine ⟨none, fun _ _ => .absent hbefore hnone hlive, nofun, fun _ => ⟨_, rfl, ?_⟩⟩
      exact ⟨rfl, by rw [hlive]; rfl, by simp, nofun⟩
    · rw [addresses_of_present hlive] at hread
      have hzero : (b.registry.liveAddresses now service).length = 0 := Except.ok.inj hread
      have hnil : b.registry.liveAddresses now service = [] := List.length_eq_zero_iff.mp hzero
      exact absurd (SortedSet.ofList_eq_nil_iff.mp hnil) hlive
  | @sampled k live picked hlast hread hsome hsample =>
    obtain ⟨hbefore, hnone⟩ := ht.of_isLast hlast
    rw [read_standing_of_none hnone] at hread
    obtain ⟨hlive, rfl⟩ := of_addresses_eq_ok hread
    refine ⟨fails (n + k + 1), fun _ _ => .present hbefore hnone hlive, ?_⟩
    have hpos := List.length_pos_iff.mpr hsome
    rcases hsample.of_transient ht hlive with ⟨hfault, address, hmem, heq⟩ |
      ⟨e, hfault, hkind, heq⟩ | ⟨e, -, -, heq⟩
    · rw [hfault]
      cases heq
      refine ⟨nofun, fun _ => ⟨_, rfl, rfl, hcount, by simpa using hpos, ?_⟩⟩
      rintro _ ⟨⟩
      exact hmem
    · rw [hfault, ending_of_unavailable hkind]
      cases heq
      exact ⟨nofun, fun _ => ⟨_, rfl, rfl, hcount, by simp, nofun⟩⟩
    · cases heq
  | @lost k live e hlast hread hsome hsample =>
    obtain ⟨hbefore, hnone⟩ := ht.of_isLast hlast
    rw [read_standing_of_none hnone] at hread
    obtain ⟨hlive, -⟩ := of_addresses_eq_ok hread
    refine ⟨fails (n + k + 1), fun _ _ => .present hbefore hnone hlive, ?_⟩
    rcases hsample.of_transient ht hlive with ⟨-, _, -, heq⟩ | ⟨e, -, -, heq⟩ |
      ⟨e, hfault, hkind, heq⟩
    · cases heq
    · cases heq
    · rw [hfault, ending_of_ne hkind]
      cases heq
      exact ⟨fun _ he => congrArg _ (Option.some.inj he), nofun⟩

theorem audit_standing (ht : IsTransient policy fails) (b : Cluster) (now : ℕ)
    (services : List String) (s : Position) :
    ∃ faults, SecondReads b.registry now fails s.calls services faults ∧
      (∀ e, faults.findSome? ending = some e →
        (carryOn (standing b now fails) (audit policy services) s).1 = .error e) ∧
      (faults.findSome? ending = none → ∃ report,
        (carryOn (standing b now fails) (audit policy services) s).1 = .ok report ∧
          List.Forall₂ (fun x one => IsEntry b.registry now x.1 x.2 one) (services.zip faults)
            report) := by
  induction services generalizing s with
  | nil => exact ⟨[], .nil _, nofun, fun _ => ⟨[], rfl, .nil⟩⟩
  | cons service services ih =>
    obtain ⟨fault, hextend, hends, hgoes⟩ :=
      (yields_auditOne (standing b now fails) policy service s).of_transient ht
    rw [carryOn_audit_cons]
    generalize carryOn (standing b now fails) (auditOne policy service) s = first
      at hextend hends hgoes
    obtain ⟨result, s'⟩ := first
    cases hfault : ending fault with
    | some e =>
      cases hends e hfault
      obtain ⟨faults, hreads⟩ := exists_secondReads ht b.registry now s'.calls services
      have hfirst : (fault :: faults).findSome? ending = some e := by
        rw [List.findSome?_cons, hfault]
      refine ⟨_, hextend _ _ hreads, ?_, ?_⟩
      · intro e' he'
        cases hfirst.symm.trans he'
        rfl
      · intro hnone
        cases hfirst.symm.trans hnone
    | none =>
      obtain ⟨one, rfl, hentry⟩ := hgoes hfault
      obtain ⟨faults, hreads, hfailed, hreported⟩ := ih s'
      refine ⟨_, hextend _ _ hreads, ?_⟩
      rw [List.findSome?_cons, hfault]
      refine ⟨fun e he => ?_, fun hnone => ?_⟩
      · simp only [hfailed e he]
        rfl
      · obtain ⟨report, hreport, hentries⟩ := hreported hnone
        refine ⟨one :: report, ?_, .cons hentry hentries⟩
        simp only [hreport]
        rfl

/-- An audit of a registry that stands still counts the live instances of each service as if no read
had failed, and chooses one wherever there are any and the second read does not fail. If it fails
and the registry is not just unavailable, the audit fails like the first such read. -/
theorem audit_of_transient (ht : IsTransient policy fails) (b : Cluster) (now : ℕ)
    (services : List String) (random : RandomSource) :
    ∃ faults, SecondReads b.registry now fails 0 services faults ∧
      faults.length = services.length ∧
      (∀ e, faults.findSome? ending = some e →
        (carryOn (standing b now fails) (audit policy services) { random }).1 = .error e) ∧
      (faults.findSome? ending = none → ∃ report,
        (carryOn (standing b now fails) (audit policy services) { random }).1 = .ok report ∧
          List.Forall₂ (fun x one => IsEntry b.registry now x.1 x.2 one) (services.zip faults)
            report) := by
  obtain ⟨faults, hreads, hfailed, hreported⟩ := audit_standing ht b now services { random }
  exact ⟨faults, hreads, hreads.length_eq, hfailed, hreported⟩

def failsOnce (i : ℕ) (n : ℕ) : Option Error := if n = i then some (.unavailable "down") else none

theorem failsOnce_isTransient (i : ℕ) : IsTransient .standard (failsOnce i) where
  isRetryable j e he := by
    unfold failsOnce at he
    split_ifs at he
    cases he
    rfl
  exists_none j := by
    by_cases hj : j = i
    · exact ⟨1, by decide, if_neg (by omega)⟩
    · exact ⟨0, by decide, if_neg hj⟩

theorem audit_of_failed_read : ∃ one,
    (carryOn (standing soleInstance 0 (failsOnce 0)) (audit .standard ["rating"])
      { random := .ofSeed 1 }).1 = .ok [one] ∧
    one.service = "rating" ∧ one.live = 1 ∧ one.picked = some "localhost:9000" := by
  obtain ⟨faults, hreads, -, -, hreported⟩ :=
    audit_of_transient (failsOnce_isTransient 0) soleInstance 0 ["rating"] (.ofSeed 1)
  have hlocated : located soleInstance.registry 0 "rating" = ["localhost:9000"] := by decide +kernel
  cases hreads with
  | absent _ _ hlive => cases hlocated.symm.trans hlive
  | @present _ k _ _ _ _ hread _ hrest =>
    cases hrest
    have hsecond : failsOnce 0 (0 + k + 1) = none := if_neg (by omega)
    rw [hsecond] at hreported
    obtain ⟨report, hreport, hentries⟩ := hreported rfl
    cases hentries with
    | cons hentry hnil =>
      cases hnil
      have hlive := hentry.live_eq
      simp only [hlocated] at hlive
      obtain ⟨address, hpicked⟩ := Option.isSome_iff_exists.mp
        (hentry.isSome_picked_iff.mpr ⟨by rw [hlive]; decide, rfl⟩)
      have hmem := hentry.mem_of_picked address hpicked
      rw [hlocated, List.mem_singleton] at hmem
      exact ⟨_, hreport, hentry.service_eq, hlive, by rw [hpicked, hmem]⟩

/-- One failure of one read, which is not tried again, and none of the live instances is chosen. -/
theorem exists_nothing_picked : ∃ (fails : ℕ → Option Error) (services : List String)
    (random : RandomSource) (report : List ServiceAudit), IsTransient .standard fails ∧
      (carryOn (standing soleInstance 0 fails) (audit .standard services) { random }).1 =
        .ok report ∧
      ∃ one ∈ report, 0 < one.live ∧ one.picked = none := by
  refine ⟨failsOnce 1, ["rating"], .ofSeed 1, [⟨"rating", 1, none⟩], failsOnce_isTransient 1, rfl,
    _, .head _, ?_⟩
  exact ⟨Nat.one_pos, rfl⟩

end Rollcall.Audit
