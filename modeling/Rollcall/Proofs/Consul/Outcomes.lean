import Rollcall.Proofs.Consul.Addresses
import Rollcall.Proofs.Consul.Entries

/-!
# What a reply of the agent means

Each operation on the registry of an agent is one request, and what comes of it follows from the
reply. A status that reports no success is an error of its own kind, which each operation takes in
its own way: a registration always fails with an internal error, to take off an instance that the
agent does not know is no failure, and to report one is a failure of its own.
-/

namespace Rollcall

open Http

namespace Http.Status

theorem errorKind_ne_notRegistered (s : Status) : s.errorKind ≠ .notRegistered := by
  unfold errorKind
  split_ifs <;> simp

end Http.Status

namespace Consul

open Client

variable {c : Client} {path : String}

/-- The error that a reply reports if it reports no success. -/
def reported (r : Reply) : Error := r.status.toError r.text

@[simp] theorem kind_reported (r : Reply) : (reported r).kind = r.status.errorKind :=
  Status.kind_toError _ _

theorem check_eq (r : Reply) :
    check r = if r.status.isSuccess = true then .ok r else .error (reported r) := rfl

theorem put_replied (h : c.Sends) (hp : IsVersioned path) : ∃ f,
    (c.put path none).Relays (c.message .put path none none) f ∧ ∀ r : Reply, f (.replied r) =
      if r.status.isSuccess = true then .ok () else .error (reported r) := by
  refine ⟨_, put_eq h hp, ?_⟩
  intro r
  change (check r).map _ = _
  rw [check_eq]
  split_ifs <;> rfl

theorem register_replied (h : c.Sends) (s : RegistrySettings) (id : InstanceId) (service : String)
    {address : String} {a : HostPort} (ha : HostPort.read address = .ok a) : ∃ f,
    (register c s id service address).Relays (registrationMessage c s id service a) f ∧
      ∀ r : Reply, f (.replied r) = if r.status.isSuccess = true then .ok ()
        else .error (registrationError id (reported r)) := by
  refine ⟨_, register_eq h ha, ?_⟩
  intro r
  change ((check r).map _).mapError _ = _
  rw [check_eq]
  split_ifs <;> rfl

theorem deregister_replied (h : c.Sends) (id : InstanceId) : ∃ f,
    (deregister c id).Relays (c.message .put (removalPath id) none none) f ∧
      ∀ r : Reply, f (.replied r) =
        if r.status.isSuccess = true ∨ r.status.code = 404 then .ok ()
        else .error (reported r) := by
  obtain ⟨f, hput, hf⟩ := put_replied h (isVersioned_removalPath id)
  refine ⟨_, hput.bind _, ?_⟩
  intro r
  simp only [hf]
  by_cases hs : r.status.isSuccess = true
  · simp [hs]
  · by_cases hcode : r.status.code = 404
    · simp [hs, hcode, Status.errorKind_eq_notFound_iff]
    · simp [hs, hcode, Status.errorKind_eq_notFound_iff]

theorem report_replied (h : c.Sends) (id : InstanceId) (service : String) : ∃ f,
    (report c id service).Relays (c.message .put (checkPath id) none none) f ∧
      ∀ r : Reply, f (.replied r) = if r.status.isSuccess = true then .ok ()
        else .error (if r.status.code = 404 then .notRegistered id service else reported r) := by
  obtain ⟨f, hput, hf⟩ := put_replied h (isVersioned_checkPath id)
  refine ⟨_, hput.bind _, ?_⟩
  intro r
  simp only [hf]
  by_cases hs : r.status.isSuccess = true
  · simp [hs]
  · simp [hs, Status.errorKind_eq_notFound_iff]

theorem addresses_replied (h : c.Sends) (service : String) : ∃ f,
    (addresses c service).Relays (healthMessage c service) f ∧ ∀ r : Reply, f (.replied r) =
      if r.status.isSuccess = true then readAddresses service (decode r)
      else .error (reported r) := by
  refine ⟨_, addresses_eq h service, ?_⟩
  intro r
  change readAddresses service ((check r).bind decode) = _
  rw [check_eq]
  split_ifs <;> rfl

theorem registrationError_eq (id : InstanceId) (e : Error) :
    (registrationError id e).kind = .internal ∧
      (e.kind ≠ .internal → ∃ m, registrationError id e = .caused m e) := by
  unfold registrationError
  split_ifs with hkind
  · exact ⟨hkind, fun h => absurd hkind h⟩
  · exact ⟨rfl, fun _ => ⟨_, rfl⟩⟩

/-- The reply lists these entries. -/
def Tells (r : Reply) (entries : List HealthEntry) : Prop :=
  ∃ d, decode r = .ok d ∧ HealthEntry.Lists d entries

theorem kind_of_decode {r : Reply} {e : Error} (h : decode r = .error e) : e.kind ≠ .notFound := by
  unfold decode Reply.read at h
  cases hending : r.ending with
  | whole =>
    simp only [hending, bind, Except.bind] at h
    split at h
    · cases h
    · cases h
      simp [Error.malformedJson, Error.kind]
  | cutOff =>
    simp only [hending, bind, Except.bind] at h
    cases h
    simp [Error.transportFailure, Error.kind]
  | stalled =>
    simp only [hending, bind, Except.bind] at h
    cases h
    simp [Error.kind]

theorem addressesOf_eq (service : String) (entries : List HealthEntry) :
    addressesOf service entries = if HealthEntry.hostPorts entries = [] then
      .error (.notFound (Error.noLiveInstances service))
    else .ok (HealthEntry.hostPorts entries) := by
  unfold addressesOf
  rw [HealthEntry.filterMap_address]
  split
  · next hnil => rw [if_pos hnil]
  · next hne => rw [if_neg hne]

/-- What is read of a reply: the addresses it lists, that there are none, or an error of another
kind. -/
theorem readAddresses_cases (service : String) (r : Reply) :
    (∃ entries, Tells r entries ∧
      readAddresses service (decode r) = addressesOf service entries) ∨
    (∀ entries, ¬ Tells r entries) ∧
      ∃ e, readAddresses service (decode r) = .error e ∧ e.kind ≠ .notFound := by
  cases hdecode : decode r with
  | error e =>
    refine .inr ⟨?_, e, rfl, kind_of_decode hdecode⟩
    rintro entries ⟨d, hd, -⟩
    cases hdecode.symm.trans hd
  | ok d =>
    cases hlist : HealthEntry.listOfDocument d with
    | none =>
      refine .inr ⟨?_, .malformedJson, ?_, by simp [Error.malformedJson, Error.kind]⟩
      · rintro entries ⟨d', hd, hlists⟩
        cases hdecode.symm.trans hd
        rw [HealthEntry.listOfDocument_eq_some_iff.mpr hlists] at hlist
        cases hlist
      · simp [readAddresses, hlist]
    | some entries =>
      have htells : Tells r entries := ⟨d, hdecode, HealthEntry.listOfDocument_eq_some_iff.mp hlist⟩
      exact .inl ⟨entries, htells, by simp [readAddresses, hlist]⟩

theorem Tells.unique {r : Reply} {entries entries' : List HealthEntry} (h : Tells r entries)
    (h' : Tells r entries') : entries = entries' := by
  obtain ⟨d, hd, hlists⟩ := h
  obtain ⟨d', hd', hlists'⟩ := h'
  cases hd.symm.trans hd'
  have heq := HealthEntry.listOfDocument_eq_some_iff.mpr hlists
  rw [HealthEntry.listOfDocument_eq_some_iff.mpr hlists'] at heq
  exact (Option.some.inj heq).symm

theorem readAddresses_eq_ok_iff {service : String} {r : Reply} {l : List String} :
    readAddresses service (decode r) = .ok l ↔ ∃ entries, Tells r entries ∧
      (∃ e ∈ entries, e.host ≠ "") ∧ l = HealthEntry.hostPorts entries := by
  have hreached (entries : List HealthEntry) :
      (∃ e ∈ entries, e.host ≠ "") ↔ ¬ HealthEntry.hostPorts entries = [] := by
    rw [HealthEntry.hostPorts_eq_nil_iff]
    simp
  rcases readAddresses_cases service r with ⟨entries, htells, heq⟩ | ⟨hnone, e, heq, -⟩
  · rw [heq, addressesOf_eq]
    constructor
    · intro h
      split_ifs at h with hnil
      cases h
      exact ⟨entries, htells, (hreached entries).mpr hnil, rfl⟩
    · rintro ⟨entries', htells', hsome, rfl⟩
      obtain rfl := htells.unique htells'
      rw [if_neg ((hreached entries).mp hsome)]
  · rw [heq]
    constructor
    · intro h
      cases h
    · rintro ⟨entries, htells, -⟩
      exact absurd htells (hnone entries)

theorem readAddresses_notFound_iff {service : String} {r : Reply} :
    (∃ e, readAddresses service (decode r) = .error e ∧ e.kind = .notFound) ↔
      ∃ entries, Tells r entries ∧ ∀ e ∈ entries, e.host = "" := by
  rcases readAddresses_cases service r with ⟨entries, htells, heq⟩ | ⟨hnone, e, heq, hkind⟩
  · rw [heq, addressesOf_eq]
    constructor
    · rintro ⟨e, he, -⟩
      split_ifs at he with hnil
      exact ⟨entries, htells, HealthEntry.hostPorts_eq_nil_iff.mp hnil⟩
    · rintro ⟨entries', htells', hnil⟩
      obtain rfl := htells.unique htells'
      rw [if_pos (HealthEntry.hostPorts_eq_nil_iff.mpr hnil)]
      exact ⟨_, rfl, rfl⟩
  · rw [heq]
    constructor
    · rintro ⟨e', he', hk⟩
      cases he'
      exact absurd hk hkind
    · rintro ⟨entries, htells, -⟩
      exact absurd htells (hnone entries)

/-- An address that cannot be read is registered nowhere. Every other operation is one request, and
the reply decides: what reports success is one, except that addresses have to be listed as well;
that nothing is found is no failure for who takes off an instance, is a failure of its own for who
reports one, and is what a list without any address comes to. -/
theorem outcomes_of_replies (h : c.Sends) (s : RegistrySettings) (id : InstanceId)
    (service address : String) :
    (∀ e, HostPort.read address = .error e →
      register c s id service address = .done (.error e) ∧ e.kind = .internal) ∧
    (∀ a, HostPort.read address = .ok a →
      ∃ f, (register c s id service address).Relays (registrationMessage c s id service a) f ∧
        ∀ r : Reply, (f (.replied r) = .ok () ↔ r.status.isSuccess = true) ∧
          ∀ e, f (.replied r) = .error e → e.kind = .internal ∧
            ((reported r).kind ≠ .internal → ∃ m, e = .caused m (reported r))) ∧
    (∃ f, (deregister c id).Relays (c.message .put (removalPath id) none none) f ∧ ∀ r : Reply,
      f (.replied r) = .ok () ↔ r.status.isSuccess = true ∨ r.status.code = 404) ∧
    (∃ f, (report c id service).Relays (c.message .put (checkPath id) none none) f ∧ ∀ r : Reply,
      (f (.replied r) = .ok () ↔ r.status.isSuccess = true) ∧
      ((∃ e, f (.replied r) = .error e ∧ e.kind = .notRegistered) ↔ r.status.code = 404)) ∧
    ∃ f, (addresses c service).Relays (healthMessage c service) f ∧ ∀ r : Reply,
      (∀ l, f (.replied r) = .ok l ↔ r.status.isSuccess = true ∧ ∃ entries, Tells r entries ∧
        (∃ e ∈ entries, e.host ≠ "") ∧ l = HealthEntry.hostPorts entries) ∧
      ((∃ e, f (.replied r) = .error e ∧ e.kind = .notFound) ↔ r.status.code = 404 ∨
        r.status.isSuccess = true ∧ ∃ entries, Tells r entries ∧ ∀ e ∈ entries, e.host = "") ∧
      f (.replied r) ≠ .ok [] := by
  refine ⟨?_, ?_, ?_, ?_, ?_⟩
  · intro e he
    refine ⟨?_, HostPort.kind_of_read he⟩
    unfold register
    rw [he]
  · intro a ha
    obtain ⟨f, hrelays, hf⟩ := register_replied h s id service ha
    refine ⟨f, hrelays, fun r => ?_⟩
    rw [hf]
    by_cases hs : r.status.isSuccess = true
    · simp [hs]
    · simp only [hs, if_false, Except.error.injEq, reduceCtorEq, true_and, Bool.false_eq_true]
      rintro e rfl
      exact registrationError_eq id (reported r)
  · obtain ⟨f, hrelays, hf⟩ := deregister_replied h id
    refine ⟨f, hrelays, fun r => ?_⟩
    rw [hf]
    split_ifs with hr
    · simp [hr]
    · simp [hr]
  · obtain ⟨f, hrelays, hf⟩ := report_replied h id service
    refine ⟨f, hrelays, fun r => ?_⟩
    rw [hf]
    by_cases hs : r.status.isSuccess = true
    · simp [hs, Status.isSuccess_ne_404 hs]
    · by_cases hcode : r.status.code = 404
      · simp [hs, hcode, Error.kind]
      · simp [hs, hcode, Status.errorKind_ne_notRegistered]
  · obtain ⟨f, hrelays, hf⟩ := addresses_replied h service
    refine ⟨f, hrelays, fun r => ?_⟩
    rw [hf]
    by_cases hs : r.status.isSuccess = true
    · simp only [hs, true_and, Status.isSuccess_ne_404 hs, false_or]
      refine ⟨fun l => readAddresses_eq_ok_iff, readAddresses_notFound_iff, ?_⟩
      intro hnil
      obtain ⟨entries, -, ⟨e, he, hhost⟩, heq⟩ := readAddresses_eq_ok_iff.mp hnil
      exact hhost (HealthEntry.hostPorts_eq_nil_iff.mp heq.symm e he)
    · simp [hs, Status.errorKind_eq_notFound_iff]

theorem outcomes_on_this_host :
    (∃ q f, (register .onThisHost {} ⟨"m-1"⟩ "web" "a:1").Relays q f ∧
      ∀ e, f (.replied ⟨⟨404⟩, none, [], .whole⟩) = .error e → e.kind = .internal) ∧
    (∃ q f, (deregister .onThisHost ⟨"m-1"⟩).Relays q f ∧
      f (.replied ⟨⟨404⟩, none, [], .whole⟩) = .ok ()) ∧
    ∃ q f, (addresses .onThisHost "web").Relays q f ∧
      f (.replied (replyOf (Json.render (.list [.table [
        ("Node", .table [("Address", .text "n")]), ("Service", .table [("Port", .nat 1)])]])))) =
        .ok ["n:1"] := by
  obtain ⟨-, hregister, ⟨f, hderegister, hf⟩, -, f', haddresses, hf'⟩ :=
    outcomes_of_replies Client.sends_onThisHost {} ⟨"m-1"⟩ "web" "a:1"
  obtain ⟨f'', hregister, hf''⟩ := hregister ⟨"a", 1⟩ rfl
  refine ⟨⟨_, f'', hregister, fun e he => ((hf'' _).2 e he).1⟩,
    ⟨_, f, hderegister, (hf _).mpr (.inr rfl)⟩, _, f', haddresses, ((hf' _).1 _).mpr ⟨rfl, ?_⟩⟩
  refine ⟨[⟨some "n", "", 1⟩], ⟨_, decode_replyOf (by cbv), ?_⟩, ?_, rfl⟩
  · exact HealthEntry.listOfDocument_eq_some_iff.mp rfl
  · exact ⟨_, List.mem_singleton_self _, by decide⟩

end Consul

end Rollcall
