import Rollcall.Registry
import Rollcall.Proofs.Data.Table
import Rollcall.Proofs.History

/-!
# Runs of a registry

A run is any sequence of calls on a registry that begins empty. From its history alone, the calls
and their replies, one can tell which instances are registered, at which addresses, and when each
gave its latest sign of life. The records of the registry say the same.
-/

namespace Rollcall.Registry

inductive Request where
  | register (id : InstanceId) (service address : String)
  | deregister (id : InstanceId) (service : String)
  | report (id : InstanceId) (service : String)
  | addresses (service : String)
  deriving DecidableEq, Repr

inductive Reply where
  | done (outcome : Except Error Unit)
  | found (outcome : Except Error (List String))

/-- The call has failed, with whatever error. -/
def Reply.Failed : Reply → Prop
  | .done outcome => ∃ e, outcome = .error e
  | .found outcome => ∃ e, outcome = .error e

def serve (r : Registry) (now : Nat) : Request → Reply × Registry
  | .register id service address =>
    let (outcome, r) := r.register now id service address; (.done outcome, r)
  | .deregister id service => (.done (.ok ()), r.deregister id service)
  | .report id service => let (outcome, r) := r.report now id service; (.done outcome, r)
  | .addresses service => (.found (r.addresses now service), r)

def replies (r : Registry) : List (Nat × Request) → List Reply
  | [] => []
  | (now, q) :: rest => (r.serve now q).1 :: (r.serve now q).2.replies rest

abbrev Answered := Rollcall.Answered Request Reply

abbrev History := Rollcall.History Request Reply

/-- The histories of a registry with a given liveness window, and the registry after each. -/
inductive Run (window : Nat) : History → Registry → Prop
  | start : Run window [] (withWindow window)
  | call {h r} (run : Run window h r) (now : Nat) (q : Request) :
      Run window (⟨now, q, (r.serve now q).1⟩ :: h) (r.serve now q).2

/-- The instance was registered under the service, and the registry accepted it. -/
def Accepted (service : String) (id : InstanceId) (address : String) (e : Answered) : Prop :=
  e.request = .register id service address ∧ e.reply = .done (.ok ())

/-- The instance was registered, or reported that it is alive and was believed. -/
def IsSign (service : String) (id : InstanceId) (e : Answered) : Prop :=
  (∃ address, Accepted service id address e) ∨
    e.request = .report id service ∧ e.reply = .done (.ok ())

/-- The latest accepted registration of the instance under the service gave this address, and the
instance has not been deregistered from the service since. -/
def Registered (h : History) (service : String) (id : InstanceId) (address : String) : Prop :=
  h.Since
    (fun e => (∀ other, ¬ Accepted service id other e) ∧ e.request ≠ .deregister id service)
    (Accepted service id address)

/-- The latest sign of life that the instance gave under the service came at this instant. -/
def SignedAt (h : History) (service : String) (id : InstanceId) (instant : Nat) : Prop :=
  h.Since (fun e => ¬ IsSign service id e) fun e => IsSign service id e ∧ e.time = instant

variable {h : History} {r : Registry} {service : String} {id : InstanceId}

theorem exists_signedAt (hs : ∃ e ∈ h, IsSign service id e) : ∃ t, SignedAt h service id t := by
  induction h with
  | nil => simp at hs
  | cons e h ih =>
    by_cases he : IsSign service id e
    · exact ⟨e.time, History.since_cons.mpr (.inl ⟨he, rfl⟩)⟩
    · obtain ⟨x, hx, hsign⟩ := hs
      rcases List.mem_cons.mp hx with rfl | hx
      · exact absurd hsign he
      · obtain ⟨t, ht⟩ := ih ⟨x, hx, hsign⟩
        exact ⟨t, History.since_cons.mpr (.inr ⟨he, ht⟩)⟩

theorem Registered.exists_signedAt {address : String} (hr : Registered h service id address) :
    ∃ t, SignedAt h service id t := by
  obtain ⟨e, he, haccepted⟩ := hr.exists_mem
  exact Registry.exists_signedAt ⟨e, he, .inl ⟨address, haccepted⟩⟩

/-- The records are those of the registered instances, each with its latest sign of life. -/
structure Agrees (h : History) (r : Registry) : Prop where
  unique : r.records.Unique
  record_iff : ∀ service id address t, r.records.get? (service, id) = some ⟨address, t⟩ ↔
    Registered h service id address ∧ SignedAt h service id t

theorem agrees_start (window : Nat) : Agrees [] (withWindow window) where
  unique := Table.unique_empty
  record_iff := by
    intro service id address t
    simp [withWindow, Registered, History.not_since_nil]

theorem Agrees.idle (ha : Agrees h r) {e : Answered}
    (hsign : ∀ service id, ¬ IsSign service id e)
    (hd : ∀ id service, e.request ≠ .deregister id service) : Agrees (e :: h) r where
  unique := ha.unique
  record_iff := by
    intro service id address t
    have haccepted : ∀ other, ¬ Accepted service id other e :=
      fun other hother => hsign service id (.inl ⟨other, hother⟩)
    rw [ha.record_iff, Registered, Registered, SignedAt, SignedAt, History.since_cons,
      History.since_cons]
    simp [haccepted, hsign, hd]

theorem Agrees.register (ha : Agrees h r) (now : Nat) (id : InstanceId)
    (service address : String) :
    Agrees (⟨now, .register id service address, .done (.ok ())⟩ :: h)
      { r with records := r.records.put (service, id) ⟨address, now⟩ } where
  unique := ha.unique.put _ _
  record_iff := by
    intro service' id' address' t
    have haccepted : ∀ other, Accepted service' id' other
        ⟨now, .register id service address, .done (.ok ())⟩ ↔
          (id = id' ∧ service = service') ∧ address = other := by
      intro other
      simp [Accepted, and_assoc]
    rw [Table.get?_put, Registered, SignedAt, History.since_cons, History.since_cons]
    by_cases heq : id = id' ∧ service = service'
    · obtain ⟨rfl, rfl⟩ := heq
      simp [haccepted, IsSign]
    · have hne : ¬ (service', id') = (service, id) := by
        rintro ⟨⟩
        exact heq ⟨rfl, rfl⟩
      rw [if_neg hne, ha.record_iff, Registered, SignedAt]
      simp [haccepted, IsSign, heq]

theorem Agrees.deregister (ha : Agrees h r) (now : Nat) (id : InstanceId) (service : String) :
    Agrees (⟨now, .deregister id service, .done (.ok ())⟩ :: h) (r.deregister id service) where
  unique := ha.unique.filter _
  record_iff := by
    intro service' id' address' t
    simp only [Registry.deregister]
    rw [Table.get?_erase, Registered, SignedAt, History.since_cons, History.since_cons]
    by_cases heq : id = id' ∧ service = service'
    · obtain ⟨rfl, rfl⟩ := heq
      simp [Accepted]
    · have hne : ¬ (service', id') = (service, id) := by
        rintro ⟨⟩
        exact heq ⟨rfl, rfl⟩
      rw [if_neg hne, ha.record_iff, Registered, SignedAt]
      simp [Accepted, IsSign, heq]

theorem Agrees.report (ha : Agrees h r) (now : Nat) {id : InstanceId} {service : String}
    {record : Record} (hr : r.records.get? (service, id) = some record) :
    Agrees (⟨now, .report id service, .done (.ok ())⟩ :: h)
      { r with records := r.records.put (service, id) { record with lastActive := now } } where
  unique := ha.unique.put _ _
  record_iff := by
    intro service' id' address' t
    rw [Table.get?_put, Registered, SignedAt, History.since_cons, History.since_cons]
    by_cases heq : id = id' ∧ service = service'
    · obtain ⟨rfl, rfl⟩ := heq
      obtain ⟨address, signed⟩ := record
      obtain ⟨hregistered, hsigned⟩ := (ha.record_iff service id address signed).mp hr
      simp only [if_true, Accepted, IsSign, reduceCtorEq, false_and, exists_false, false_or,
        not_false_eq_true, implies_true, ne_eq, and_self, true_and, not_true, or_false,
        Option.some.injEq, Record.mk.injEq]
      constructor
      · rintro ⟨rfl, rfl⟩
        exact ⟨hregistered, rfl⟩
      · rintro ⟨hother, rfl⟩
        have hget := (ha.record_iff service id address' signed).mpr ⟨hother, hsigned⟩
        rw [hr] at hget
        cases hget
        exact ⟨rfl, rfl⟩
    · have hne : ¬ (service', id') = (service, id) := by
        rintro ⟨⟩
        exact heq ⟨rfl, rfl⟩
      rw [if_neg hne, ha.record_iff, Registered, SignedAt]
      simp [Accepted, IsSign, heq]

theorem Agrees.serve (ha : Agrees h r) (now : Nat) (q : Request) :
    Agrees (⟨now, q, (r.serve now q).1⟩ :: h) (r.serve now q).2 := by
  cases q with
  | register id service address =>
    simp only [Registry.serve, Registry.register]
    split
    · exact ha.idle (by simp [IsSign, Accepted]) (by simp)
    · exact ha.register now id service address
  | deregister id service => exact ha.deregister now id service
  | report id service =>
    simp only [Registry.serve, Registry.report]
    split
    · exact ha.idle (by simp [IsSign, Accepted]) (by simp)
    · next record hr => exact ha.report now hr
  | addresses service => exact ha.idle (by simp [IsSign, Accepted, Registry.serve]) (by simp)

theorem Run.agrees {window : Nat} (run : Run window h r) : Agrees h r := by
  induction run with
  | start => exact agrees_start window
  | call run now q ih => exact ih.serve now q

theorem Run.window_eq {window : Nat} (run : Run window h r) : r.window = window := by
  induction run with
  | start => rfl
  | @call h r run now q ih =>
    rw [← ih]
    cases q with
    | register id service address =>
      simp only [Registry.serve, Registry.register]
      split <;> rfl
    | report id service =>
      simp only [Registry.serve, Registry.report]
      split <;> rfl
    | deregister id service => rfl
    | addresses service => rfl

end Rollcall.Registry
