import Rollcall.Proofs.Happenings
import Rollcall.Proofs.Registry.LiveSet

/-!
# The record of one instance

The record of an instance under a service changes only when the instance is registered there,
deregistered, or reports and is believed. Whether its address is resolved depends on how old its
latest sign of life is, as long as no other instance has the same address.
-/

namespace Rollcall

namespace Registry

variable {r : Registry} {now : Nat} {service address : String}

theorem mem_liveAddresses_iff (hu : r.records.Unique) :
    address ∈ r.liveAddresses now service ↔
      ∃ id record, r.records.get? (service, id) = some record ∧ record.address = address ∧
        now ≤ record.lastActive + r.window := by
  simp only [liveAddresses, SortedSet.mem_ofList, List.mem_map, List.mem_filter,
    mem_recordsOf_iff hu, isLive_iff]
  constructor
  · rintro ⟨record, ⟨⟨id, hr⟩, hle⟩, heq⟩
    exact ⟨id, record, hr, heq, hle⟩
  · rintro ⟨id, record, hr, heq, hle⟩
    exact ⟨record, ⟨⟨id, hr⟩, hle⟩, heq⟩

theorem mem_addresses_iff (hu : r.records.Unique) :
    (∃ l, r.addresses now service = .ok l ∧ address ∈ l) ↔
      ∃ id record, r.records.get? (service, id) = some record ∧ record.address = address ∧
        now ≤ record.lastActive + r.window := by
  rw [← mem_liveAddresses_iff hu]
  unfold addresses
  constructor
  · rintro ⟨l, hl, hmem⟩
    split at hl
    · cases hl
    · cases hl
      exact hmem
  · intro hmem
    split
    · next hnil =>
      rw [hnil] at hmem
      exact absurd hmem List.not_mem_nil
    · exact ⟨_, rfl, hmem⟩

end Registry

/-- The instance was registered under the service, deregistered from it, or believed to be alive. -/
def Happening.Touches (id : InstanceId) (service : String) (x : Happening) : Prop :=
  (∃ address, x = .called (.register id service address) (.ok ())) ∨
    x = .called (.deregister id service) (.ok ()) ∨ x = .called (.report id service) (.ok ())

namespace Faulty

def record? (b : Faulty Cluster) (service : String) (id : InstanceId) : Option Record :=
  b.behind.registry.records.get? (service, id)

variable {b b' : Faulty Cluster} {now : Nat} {c : Call} {service address : String}
  {id : InstanceId} {l : List Happening}

theorem registry_perform_cases (b : Faulty Cluster) (now : Nat) (c : Call) :
    (Backend.perform b now c).2.behind.registry = b.behind.registry ∨
    ∃ id service, (Happening.called c (Backend.perform b now c).1).Touches id service ∧
      ((Backend.perform b now c).2.behind.registry = b.behind.registry.deregister id service ∨
        ∃ record, (Backend.perform b now c).2.behind.registry = { b.behind.registry with
          records := b.behind.registry.records.put (service, id) record }) := by
  rcases perform_cases b now c with ⟨e, -, hp⟩ | hp
  · rw [hp]
    exact .inl rfl
  · rw [hp]
    cases c with
    | register id service address =>
      simp only [Cluster.perform, Registry.register]
      split
      · exact .inl rfl
      · exact .inr ⟨id, service, .inl ⟨address, rfl⟩, .inr ⟨_, rfl⟩⟩
    | deregister id service => exact .inr ⟨id, service, .inr (.inl rfl), .inl rfl⟩
    | report id service =>
      simp only [Cluster.perform, Registry.report]
      split
      · exact .inl rfl
      · exact .inr ⟨id, service, .inr (.inr rfl), .inr ⟨_, rfl⟩⟩
    | _ => exact .inl rfl

theorem window_perform (b : Faulty Cluster) (now : Nat) (c : Call) :
    (Backend.perform b now c).2.behind.registry.window = b.behind.registry.window := by
  rcases registry_perform_cases b now c with heq | ⟨id, service, -, heq | ⟨record, heq⟩⟩
  · rw [heq]
  · rw [heq]
    rfl
  · rw [heq]

theorem records_unique_perform (h : b.behind.registry.records.Unique) (now : Nat) (c : Call) :
    (Backend.perform b now c).2.behind.registry.records.Unique := by
  rcases registry_perform_cases b now c with heq | ⟨id, service, -, heq | ⟨record, heq⟩⟩
  · rw [heq]
    exact h
  · rw [heq]
    exact h.filter _
  · rw [heq]
    exact h.put _ _

theorem record?_perform
    (h : ¬ (Happening.called c (Backend.perform b now c).1).Touches id service) :
    (Backend.perform b now c).2.record? service id = b.record? service id := by
  unfold record?
  rcases registry_perform_cases b now c with heq | ⟨id', service', htouch, hcase⟩
  · rw [heq]
  · have hne : (service, id) ≠ (service', id') := by
      rintro ⟨⟩
      exact h htouch
    rcases hcase with heq | ⟨record, heq⟩
    · rw [heq]
      exact (Table.get?_erase _ _ _).trans (if_neg hne)
    · rw [heq]
      exact (Table.get?_put _ _ _ _).trans (if_neg hne)

theorem record?_of_registered
    (h : (Backend.perform b now (.register id service address)).1 = .ok ()) :
    (Backend.perform b now (.register id service address)).2.record? service id =
      some ⟨address, now⟩ := by
  rcases perform_cases b now (.register id service address) with ⟨e, -, hp⟩ | hp
  · rw [hp] at h
    cases h
  · rw [hp] at h ⊢
    simp only [Cluster.perform, Registry.register] at h ⊢
    split at h
    · cases h
    · simp only [record?]
      exact (Table.get?_put _ _ _ _).trans (if_pos rfl)

theorem record?_of_reported (h : (Backend.perform b now (.report id service)).1 = .ok ()) :
    ∃ record, b.record? service id = some record ∧
      (Backend.perform b now (.report id service)).2.record? service id =
        some { record with lastActive := now } := by
  rcases perform_cases b now (.report id service) with ⟨e, -, hp⟩ | hp
  · rw [hp] at h
    cases h
  · rw [hp] at h ⊢
    simp only [Cluster.perform, Registry.report] at h ⊢
    split at h
    · cases h
    · next record hrecord =>
      refine ⟨record, hrecord, ?_⟩
      simp only [record?]
      exact (Table.get?_put _ _ _ _).trans (if_pos rfl)

theorem record?_of_not_reported {e : Error}
    (h : (Backend.perform b now (.report id service)).1 = .error e) :
    (Backend.perform b now (.report id service)).2.record? service id = b.record? service id := by
  refine record?_perform ?_
  rw [h]
  rintro (⟨_, heq⟩ | heq | heq) <;> cases heq

theorem Undergoes.window_eq (h : Undergoes now b l b') :
    b'.behind.registry.window = b.behind.registry.window := by
  induction h with
  | nothing => rfl
  | call _ c ih => exact (window_perform _ now c).trans ih
  | mark _ _ _ ih => exact ih

theorem Undergoes.records_unique (h : Undergoes now b l b')
    (hu : b.behind.registry.records.Unique) : b'.behind.registry.records.Unique := by
  induction h with
  | nothing => exact hu
  | call _ c ih => exact records_unique_perform ih now c
  | mark _ _ _ ih => exact ih

theorem Undergoes.record?_eq (h : Undergoes now b l b') (hl : ∀ x ∈ l, ¬ x.Touches id service) :
    b'.record? service id = b.record? service id := by
  induction h with
  | nothing => rfl
  | call _ c ih =>
    rw [List.forall_mem_cons] at hl
    exact (record?_perform hl.1).trans (ih hl.2)
  | mark _ _ _ ih =>
    rw [List.forall_mem_cons] at hl
    exact ih hl.2

/-- A record that is only touched by reports tells the time of the latest of them. -/
theorem Undergoes.record?_of_reports (h : Undergoes now b l b') {record : Record}
    (hr : b.record? service id = some record)
    (hl : ∀ x ∈ l, x.Touches id service → x = .called (.report id service) (.ok ())) :
    .called (.report id service) (.ok ()) ∈ l ∧
        b'.record? service id = some { record with lastActive := now } ∨
      .called (.report id service) (.ok ()) ∉ l ∧ b'.record? service id = some record := by
  induction h with
  | nothing => exact .inr ⟨List.not_mem_nil, hr⟩
  | @call l b' h c ih =>
    rw [List.forall_mem_cons] at hl
    by_cases htouch : (Happening.called c (Backend.perform b' now c).1).Touches id service
    · have hreport := hl.1 htouch
      cases c with
      | report id' service' =>
        obtain ⟨rfl, rfl⟩ : id' = id ∧ service' = service := by
          injection hreport with hc
          injection hc with hid hservice
          exact ⟨hid, hservice⟩
        have hok : (Backend.perform b' now (.report id' service')).1 = .ok () := by
          injection hreport
        obtain ⟨old, hold, hnew⟩ := record?_of_reported hok
        refine .inl ⟨hok ▸ List.mem_cons_self, hnew.trans ?_⟩
        rcases ih hl.2 with ⟨-, hbefore⟩ | ⟨-, hbefore⟩
        · cases hold.symm.trans hbefore
          rfl
        · cases hold.symm.trans hbefore
          rfl
      | _ => cases hreport
    · have hsame : (Backend.perform b' now c).2.record? service id = b'.record? service id :=
        record?_perform htouch
      have hne : Happening.called c (Backend.perform b' now c).1 ≠
          .called (.report id service) (.ok ()) := by
        intro heq
        exact htouch (.inr (.inr heq))
      rw [hsame, List.mem_cons, eq_comm (a := Happening.called _ _), or_iff_right hne]
      exact ih hl.2
  | mark _ _ _ ih =>
    rw [List.forall_mem_cons] at hl
    simpa using ih hl.2

end Faulty

end Rollcall
