import Rollcall.Proofs.Data.SortedSet
import Rollcall.Proofs.Registry.Run

/-!
# The live set

The addresses that a registry gives for a service are those of the instances that are registered
under it and whose latest sign of life lies within the liveness window. Silence alone removes no
instance: a report is accepted however late it comes.
-/

namespace Rollcall.Registry

/-- Some instance is registered at the address, and the latest sign of life that it gave is no older
than the liveness window. -/
def LiveAt (h : History) (window now : Nat) (service address : String) : Prop :=
  ∃ id t, Registered h service id address ∧ SignedAt h service id t ∧ now ≤ t + window

variable {h : History} {r : Registry} {window : Nat}

theorem mem_recordsOf_iff (hu : r.records.Unique) {service : String} {record : Record} :
    record ∈ r.recordsOf service ↔ ∃ id, r.records.get? (service, id) = some record := by
  simp only [recordsOf, Table.values, Table.filter, List.mem_map, List.mem_filter,
    decide_eq_true_eq]
  constructor
  · rintro ⟨⟨⟨other, id⟩, record⟩, ⟨hm, rfl⟩, rfl⟩
    exact ⟨id, hu.get?_of_mem hm⟩
  · rintro ⟨id, hr⟩
    exact ⟨_, ⟨Table.mem_entries_of_get? hr, rfl⟩, rfl⟩

theorem isLive_iff {now : Nat} {record : Record} :
    r.isLive now record = true ↔ now ≤ record.lastActive + r.window := by
  simp only [isLive, decide_eq_true_eq]
  omega

theorem Run.mem_liveAddresses_iff (run : Run window h r) (now : Nat) (service address : String) :
    address ∈ r.liveAddresses now service ↔ LiveAt h window now service address := by
  have ha := run.agrees
  simp only [liveAddresses, SortedSet.mem_ofList, List.mem_map, List.mem_filter,
    mem_recordsOf_iff ha.unique, isLive_iff, run.window_eq]
  constructor
  · rintro ⟨⟨address, t⟩, ⟨⟨id, hr⟩, hlive⟩, rfl⟩
    obtain ⟨hregistered, hsigned⟩ := (ha.record_iff service id address t).mp hr
    exact ⟨id, t, hregistered, hsigned, hlive⟩
  · rintro ⟨id, t, hregistered, hsigned, hlive⟩
    have hr := (ha.record_iff service id address t).mpr ⟨hregistered, hsigned⟩
    exact ⟨⟨address, t⟩, ⟨⟨id, hr⟩, hlive⟩, rfl⟩

theorem Run.addresses_of_live (run : Run window h r) {now : Nat} {service : String}
    (hl : ∃ address, LiveAt h window now service address) :
    r.addresses now service = .ok (r.liveAddresses now service) := by
  obtain ⟨address, hl⟩ := hl
  have hmem := (run.mem_liveAddresses_iff now service address).mpr hl
  unfold addresses
  split
  · next hnil =>
    rw [hnil] at hmem
    exact absurd hmem List.not_mem_nil
  · rfl

theorem Run.addresses_of_not_live (run : Run window h r) {now : Nat} {service : String}
    (hl : ¬ ∃ address, LiveAt h window now service address) :
    r.addresses now service = .error (.notFound (Error.noLiveInstances service)) := by
  have hnil : r.liveAddresses now service = [] := by
    refine List.eq_nil_iff_forall_not_mem.mpr fun address hmem => ?_
    exact hl ⟨address, (run.mem_liveAddresses_iff now service address).mp hmem⟩
  unfold addresses
  rw [hnil]

theorem Run.exists_registered_iff (run : Run window h r) (id : InstanceId) (service : String) :
    (∃ address, Registered h service id address) ↔
      ∃ record, r.records.get? (service, id) = some record := by
  have ha := run.agrees
  constructor
  · rintro ⟨address, hr⟩
    obtain ⟨t, ht⟩ := hr.exists_signedAt
    exact ⟨_, (ha.record_iff service id address t).mpr ⟨hr, ht⟩⟩
  · rintro ⟨⟨address, t⟩, hr⟩
    exact ⟨address, ((ha.record_iff service id address t).mp hr).1⟩

/-- A call that fails leaves the registry as it was. -/
theorem serve_of_failed {now : Nat} {q : Request} (hq : (r.serve now q).1.Failed) :
    (r.serve now q).2 = r := by
  cases q with
  | register id service address =>
    simp only [serve, Registry.register] at hq ⊢
    split
    · rfl
    · next hread => simp [hread, Reply.Failed] at hq
  | deregister id service => simp [serve, Reply.Failed] at hq
  | report id service =>
    simp only [serve, Registry.report] at hq ⊢
    split
    · rfl
    · next hr => simp [hr, Reply.Failed] at hq
  | addresses service => rfl

/-- The registry names, in the order of their bytes and each once, the addresses of the instances
that are registered and have given a sign of life within the window, and complains only if there is
none. It accepts a report from whoever is registered, silent or not, and from no one else. A
malformed address is refused, and a call that is refused changes no later reply. -/
theorem Run.live_set (run : Run window h r) (now : Nat) :
    (∀ service, (∃ address, LiveAt h window now service address) →
      ∃ l, (r.serve now (.addresses service)).1 = .found (.ok l) ∧
        l.Pairwise Text.ByteLess ∧ l.Nodup ∧
          ∀ address, address ∈ l ↔ LiveAt h window now service address) ∧
    (∀ service, (¬ ∃ address, LiveAt h window now service address) →
      (r.serve now (.addresses service)).1 =
        .found (.error (.notFound (Error.noLiveInstances service)))) ∧
    (∀ id service, (∃ address, Registered h service id address) →
      (r.serve now (.report id service)).1 = .done (.ok ())) ∧
    (∀ id service, (¬ ∃ address, Registered h service id address) →
      (r.serve now (.report id service)).1 = .done (.error (.notRegistered id service))) ∧
    (∀ id service address e, HostPort.read address = .error e →
      (r.serve now (.register id service address)).1 = .done (.error e)) ∧
    ∀ q, (r.serve now q).1.Failed → ∀ calls, (r.serve now q).2.replies calls = r.replies calls := by
  refine ⟨fun service hl => ?_, fun service hl => ?_, fun id service hr => ?_,
    fun id service hr => ?_, fun id service address e he => ?_, fun q hq calls => ?_⟩
  · refine ⟨r.liveAddresses now service, ?_, SortedSet.byteLess_ofList _,
      SortedSet.nodup_ofList _, run.mem_liveAddresses_iff now service⟩
    simp only [serve, run.addresses_of_live hl]
  · simp only [serve, run.addresses_of_not_live hl]
  · obtain ⟨record, hr⟩ := (run.exists_registered_iff id service).mp hr
    simp only [serve, Registry.report, hr]
  · rw [run.exists_registered_iff, ← Table.contains_iff, Table.contains, Option.isSome_iff_ne_none,
      not_not] at hr
    simp only [serve, Registry.report, hr]
  · simp only [serve, Registry.register, he]
  · rw [serve_of_failed hq]

theorem live_set_about_the_window :
    ∃ h r, Run 5 h r ∧
      (r.serve 5 (.addresses "web")).1 = .found (.ok ["a:1", "b:2"]) ∧
      (∀ address, address ∈ ["a:1", "b:2"] ↔ LiveAt h 5 5 "web" address) ∧
      (r.serve 6 (.addresses "web")).1 =
        .found (.error (.notFound "no live instances of service web")) ∧
      (r.serve 6 (.report ⟨"i"⟩ "web")).1 = .done (.ok ()) ∧
      (r.serve 6 (.report ⟨"k"⟩ "web")).1 = .done (.error (.notRegistered ⟨"k"⟩ "web")) ∧
      (r.serve 6 (.register ⟨"i"⟩ "web" "b")).2.replies [(6, .report ⟨"i"⟩ "web")] =
        r.replies [(6, .report ⟨"i"⟩ "web")] := by
  have r0 : Run 5 [] (withWindow 5) := Run.start
  have r1 := r0.call 0 (.register ⟨"i"⟩ "web" "b:2")
  have r2 := r1.call 0 (.register ⟨"j"⟩ "web" "a:1")
  have r3 := r2.call 0 (.register ⟨"k"⟩ "web" "c:3")
  have run := r3.call 1 (.deregister ⟨"k"⟩ "web")
  have hlive := (run.mem_liveAddresses_iff 5 "web" "b:2").mp (by decide)
  have hsilent := fun address =>
    (run.mem_liveAddresses_iff 6 "web" address).not.mp List.not_mem_nil
  have hi := (run.exists_registered_iff ⟨"i"⟩ "web").mpr ⟨⟨"b:2", 0⟩, rfl⟩
  have hk := (run.exists_registered_iff ⟨"k"⟩ "web").not.mpr nofun
  obtain ⟨hfound, -⟩ := run.live_set 5
  obtain ⟨-, hnone, hreport, hrefuse, -, hfailed⟩ := run.live_set 6
  obtain ⟨l, hl, -, -, hmem⟩ := hfound "web" ⟨"b:2", hlive⟩
  have heq : ["a:1", "b:2"] = l := by
    injection hl with hl
    injection hl
  subst heq
  refine ⟨_, _, run, hl, hmem, ?_, hreport _ _ hi, hrefuse _ _ hk, ?_⟩
  · exact hnone "web" fun ⟨address, hl⟩ => hsilent address hl
  · exact hfailed (.register ⟨"i"⟩ "web" "b") ⟨_, rfl⟩ _

end Rollcall.Registry
