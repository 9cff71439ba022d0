import Rollcall.Fleet.Basic
import Rollcall.Proofs.Registry.Record
import Rollcall.Resolver

/-!
# What a resolver picks

A resolver keeps nothing but its source of chance, and draws from that only when the registry has
given it a list to choose from. So a resolution that fails leaves no trace, whether it failed for
want of live instances or because the reading of the registry did, and what is picked follows from
the seed and the lists that were chosen from, one after the other.
-/

namespace Rollcall.Resolver

/-- A registry in memory at an instant, and the chance of a resolver that reads it. -/
structure Setting where
  cluster : Cluster
  now : ℕ
  random : RandomSource

/-- What can happen next. A call may be made to fail before it reaches the registry. -/
inductive Turn where
  | pass (duration : ℕ)
  | call (c : Call) (fault : Option Error)
  | resolve (service : String) (fault : Option Error)

def faults (op : Call.Kind) : Option Error → List Fault
  | none => []
  | some e => [⟨op, e, 1⟩]

namespace Setting

def start (window seed : ℕ) : Setting where
  cluster := { registry := .withWindow window }
  now := 0
  random := .ofSeed seed

def resolve (s : Setting) (service : String) (fault : Option Error) :
    Except Error String × Setting :=
  let f : Fleet (Faulty Cluster) :=
    { backend := ⟨s.cluster, faults .addresses fault⟩, now := s.now }
  let (r, (f, random)) := f.carryOut (fun _ f => f) s.random (Resolver.resolve service)
  (r, { s with cluster := f.backend.behind, random })

def after (s : Setting) : Turn → Setting
  | .pass duration => { s with now := s.now + duration }
  | .call c fault =>
    let b : Faulty Cluster := ⟨s.cluster, faults c.kind fault⟩
    { s with cluster := (Backend.perform b s.now c).2.behind }
  | .resolve service fault => (s.resolve service fault).2

def afterAll (s : Setting) (turns : List Turn) : Setting := turns.foldl after s

def live (s : Setting) (service : String) : List String :=
  s.cluster.registry.liveAddresses s.now service

/-- An instance with the address is registered under the service, and its latest sign of life is no
older than the window. -/
def Lists (s : Setting) (service address : String) : Prop :=
  ∃ id record, s.cluster.registry.records.get? (service, id) = some record ∧
    record.address = address ∧ s.now ≤ record.lastActive + s.cluster.registry.window

/-- What a turn picks, if it is a resolution that succeeds. -/
def pick? (s : Setting) : Turn → Option String
  | .resolve service fault => (s.resolve service fault).1.toOption
  | _ => none

/-- What a turn picks from, if it is a resolution that succeeds. -/
def choices? (s : Setting) : Turn → Option (List String)
  | .resolve service fault => (s.resolve service fault).1.toOption.map fun _ => s.live service
  | _ => none

def picks (s : Setting) : List Turn → List String
  | [] => []
  | t :: turns => (s.pick? t).toList ++ (s.after t).picks turns

def choices (s : Setting) : List Turn → List (List String)
  | [] => []
  | t :: turns => (s.choices? t).toList ++ (s.after t).choices turns

end Setting

/-- The second run is the first without some resolutions that fail. -/
inductive Thins : Setting → List Turn → List Turn → Prop
  | nothing (s : Setting) : Thins s [] []
  | keep {s : Setting} {t : Turn} {turns turns' : List Turn} (h : Thins (s.after t) turns turns') :
      Thins s (t :: turns) (t :: turns')
  | drop {s : Setting} {service : String} {fault : Option Error} {e : Error}
      {turns turns' : List Turn} (hfails : (s.resolve service fault).1 = .error e)
      (h : Thins (s.resolve service fault).2 turns turns') :
      Thins s (.resolve service fault :: turns) turns'

/-- What is drawn from one list after the other. -/
def draws (random : RandomSource) : List (List String) → List String
  | [] => []
  | [] :: lists => draws random lists
  | (first :: rest) :: lists =>
    let (i, random) := random.choose rest.length
    (first :: rest).get (i.cast List.length_cons.symm) :: draws random lists

variable {s : Setting} {service : String} {turns turns' : List Turn}

namespace Setting

theorem resolve_of_fault (s : Setting) (service : String) (e : Error) :
    s.resolve service (some e) = (.error (readingError service e), s) := rfl

theorem resolve_of_addresses {r : Except Error (List String)}
    (h : s.cluster.registry.addresses s.now service = r) :
    s.resolve service none =
      match r with
      | .error e => (.error (readingError service e), s)
      | .ok [] => (.error (.unavailable (Error.noLiveInstances service)), s)
      | .ok (first :: rest) =>
        (.ok ((first :: rest).get ((s.random.choose rest.length).1.cast List.length_cons.symm)),
          { s with random := (s.random.choose rest.length).2 }) := by
  have hcall : Backend.perform (⟨s.cluster, []⟩ : Faulty Cluster) s.now (.addresses service) =
      (r, ⟨s.cluster, []⟩) := congrArg (·, Faulty.mk s.cluster []) h
  unfold resolve Fleet.carryOut Resolver.resolve
  simp only [Plan.run, Fleet.answer, Fleet.perform, Fleet.ask, faults, hcall]
  rcases r with e | live
  · rfl
  · cases live with
    | nil => rfl
    | cons first rest => rfl

theorem resolve_of_nil (h : s.live service = []) :
    s.resolve service none = (.error (.unavailable (Error.noLiveInstances service)), s) := by
  have hread : s.cluster.registry.addresses s.now service =
      .error (.notFound (Error.noLiveInstances service)) := by
    unfold live at h
    unfold Registry.addresses
    rw [h]
  exact resolve_of_addresses hread

theorem resolve_of_cons {first : String} {rest : List String}
    (h : s.live service = first :: rest) :
    s.resolve service none =
      (.ok ((first :: rest).get ((s.random.choose rest.length).1.cast List.length_cons.symm)),
        { s with random := (s.random.choose rest.length).2 }) := by
  have hread : s.cluster.registry.addresses s.now service = .ok (first :: rest) := by
    unfold live at h
    unfold Registry.addresses
    rw [h]
  exact resolve_of_addresses hread

/-- A resolution fails and leaves everything as it was, or it draws once and gives an address that
is listed. -/
theorem resolve_cases (s : Setting) (service : String) (fault : Option Error) :
    (∃ e, s.resolve service fault = (.error e, s)) ∨
      fault = none ∧ ∃ first rest, s.live service = first :: rest ∧
        s.resolve service fault =
          (.ok ((first :: rest).get ((s.random.choose rest.length).1.cast List.length_cons.symm)),
            { s with random := (s.random.choose rest.length).2 }) := by
  cases fault with
  | some e => exact .inl ⟨_, s.resolve_of_fault service e⟩
  | none =>
    cases hlive : s.live service with
    | nil => exact .inl ⟨_, resolve_of_nil hlive⟩
    | cons first rest => exact .inr ⟨rfl, first, rest, rfl, resolve_of_cons hlive⟩

theorem mem_live_of_resolve {fault : Option Error} {address : String}
    (h : (s.resolve service fault).1 = .ok address) : fault = none ∧ address ∈ s.live service := by
  rcases s.resolve_cases service fault with ⟨e, hfails⟩ | ⟨hnone, first, rest, hlive, hpick⟩
  · rw [hfails] at h
    cases h
  · rw [hpick] at h
    cases h
    rw [hlive]
    exact ⟨hnone, List.get_mem _ _⟩

theorem resolve_of_error {fault : Option Error} {e : Error}
    (h : (s.resolve service fault).1 = .error e) : (s.resolve service fault).2 = s := by
  rcases s.resolve_cases service fault with ⟨e', hfails⟩ | ⟨-, first, rest, -, hpick⟩
  · rw [hfails]
  · rw [hpick] at h
    cases h

theorem exists_resolve_of_mem {address : String} (h : address ∈ s.live service) :
    ∃ address', (s.resolve service none).1 = .ok address' := by
  cases hlive : s.live service with
  | nil =>
    rw [hlive] at h
    cases h
  | cons first rest =>
    rw [resolve_of_cons hlive]
    exact ⟨_, rfl⟩

theorem records_unique_after (hu : s.cluster.registry.records.Unique) (t : Turn) :
    (s.after t).cluster.registry.records.Unique := by
  cases t with
  | pass => exact hu
  | call c fault => exact Faulty.records_unique_perform hu s.now c
  | resolve service fault =>
    rcases s.resolve_cases service fault with ⟨e, h⟩ | ⟨-, first, rest, -, h⟩
    · simpa only [after, h] using hu
    · simpa only [after, h] using hu

theorem records_unique_afterAll (hu : s.cluster.registry.records.Unique) (turns : List Turn) :
    (s.afterAll turns).cluster.registry.records.Unique := by
  induction turns generalizing s with
  | nil => exact hu
  | cons t turns ih => exact ih (records_unique_after hu t)

theorem mem_live_iff (hu : s.cluster.registry.records.Unique) {address : String} :
    address ∈ s.live service ↔ s.Lists service address :=
  Registry.mem_liveAddresses_iff hu

theorem live_eq_nil_iff (hu : s.cluster.registry.records.Unique) :
    s.live service = [] ↔ ¬ ∃ address, s.Lists service address := by
  simp only [← mem_live_iff hu, List.eq_nil_iff_forall_not_mem, not_exists]

theorem picks_cons (s : Setting) (t : Turn) (turns : List Turn) :
    s.picks (t :: turns) = (s.pick? t).toList ++ (s.after t).picks turns := rfl

theorem afterAll_cons (s : Setting) (t : Turn) (turns : List Turn) :
    s.afterAll (t :: turns) = (s.after t).afterAll turns := rfl

theorem picks_cons_eq_draws (s : Setting) (t : Turn) (lists : List (List String)) :
    (s.pick? t).toList ++ draws (s.after t).random lists =
      draws s.random ((s.choices? t).toList ++ lists) := by
  cases t with
  | pass => rfl
  | call => rfl
  | resolve service fault =>
    rcases s.resolve_cases service fault with ⟨e, h⟩ | ⟨-, first, rest, hlive, h⟩
    · simp [pick?, choices?, after, h, Except.toOption]
    · simp [pick?, choices?, after, h, hlive, Except.toOption, draws]

theorem picks_eq_draws (s : Setting) (turns : List Turn) :
    s.picks turns = draws s.random (s.choices turns) := by
  induction turns generalizing s with
  | nil => rfl
  | cons t turns ih =>
    rw [picks_cons, ih, picks_cons_eq_draws]
    rfl

end Setting

/-- What is left of a run picks the same and ends the same. -/
theorem Thins.picks_eq (h : Thins s turns turns') :
    s.picks turns' = s.picks turns ∧ s.afterAll turns' = s.afterAll turns := by
  induction h with
  | nothing => exact ⟨rfl, rfl⟩
  | @keep s t turns turns' h ih => exact ⟨congrArg ((s.pick? t).toList ++ ·) ih.1, ih.2⟩
  | @drop s service fault e turns turns' hfails h ih =>
    -- The setting after a failure is the one before, so the rest of the run starts where it did.
    have hafter : s.after (.resolve service fault) = s := Setting.resolve_of_error hfails
    have hpick : s.pick? (.resolve service fault) = none := by
      simp [Setting.pick?, hfails, Except.toOption]
    rw [Setting.resolve_of_error hfails] at ih
    rw [Setting.picks_cons, Setting.afterAll_cons, hpick, hafter]
    exact ih

/-- Whatever was done with an empty registry before: a resolution of a service gives an address that
an instance of the service is live at. It is unavailable if there is no such address, or if the
reading of the registry fails because nothing is found; another failure of the reading is given as
it is; and it fails in no other case. All that is picked in a run follows from the seed and the
lists that were chosen from, whatever else is different. So a run without some of the resolutions
that fail picks the same and ends the same. -/
theorem picks_from_listed (window seed : ℕ) (turns : List Turn) :
    let start := Setting.start window seed
    let s := start.afterAll turns
    (∀ service fault address, (s.resolve service fault).1 = .ok address →
      fault = none ∧ s.Lists service address) ∧
    (∀ service, (¬ ∃ address, s.Lists service address) →
      (s.resolve service none).1 = .error (.unavailable (Error.noLiveInstances service))) ∧
    (∀ service e, e.kind = .notFound →
      (s.resolve service (some e)).1 = .error (.unavailable (Error.noLiveInstances service))) ∧
    (∀ service e, e.kind ≠ .notFound → (s.resolve service (some e)).1 = .error e) ∧
    (∀ service address, s.Lists service address →
      ∃ address', (s.resolve service none).1 = .ok address') ∧
    (∀ window' turns', (Setting.start window' seed).choices turns' = start.choices turns →
      (Setting.start window' seed).picks turns' = start.picks turns) ∧
    ∀ turns', Thins start turns turns' →
      start.picks turns' = start.picks turns ∧ start.afterAll turns' = s := by
  intro start s
  have hu : s.cluster.registry.records.Unique :=
    Setting.records_unique_afterAll Table.unique_empty turns
  refine ⟨?_, ?_, ?_, ?_, ?_, ?_, ?_⟩
  · intro service fault address h
    obtain ⟨hnone, hmem⟩ := Setting.mem_live_of_resolve h
    exact ⟨hnone, (Setting.mem_live_iff hu).mp hmem⟩
  · intro service h
    rw [Setting.resolve_of_nil ((Setting.live_eq_nil_iff hu).mpr h)]
  · intro service e h
    rw [Setting.resolve_of_fault, readingError, if_pos h]
  · intro service e h
    rw [Setting.resolve_of_fault, readingError, if_neg h]
  · intro service address h
    exact Setting.exists_resolve_of_mem ((Setting.mem_live_iff hu).mpr h)
  · intro window' turns' h
    rw [Setting.picks_eq_draws, Setting.picks_eq_draws, h]
    rfl
  · intro turns' h
    exact h.picks_eq

theorem picks_from_listed_after_failures :
    let register := Turn.call (.register ⟨"a"⟩ "movie" "h:1") none
    let last := Turn.resolve "movie" none
    let start := Setting.start 5 7
    start.picks [register, .resolve "movie" (some (.deadlineExceeded "slow")),
        .resolve "rating" none, last] = ["h:1"] ∧
      start.picks [register, last] = ["h:1"] := by
  intro register last start
  have hpicks : start.picks [register, .resolve "movie" (some (.deadlineExceeded "slow")),
      .resolve "rating" none, last] = ["h:1"] := by
    decide +kernel
  obtain ⟨-, -, -, -, -, -, hthins⟩ := picks_from_listed 5 7
    [register, .resolve "movie" (some (.deadlineExceeded "slow")), .resolve "rating" none, last]
  refine ⟨hpicks, ?_⟩
  rw [← hpicks]
  refine (hthins _ ?_).1
  apply Thins.keep
  refine Thins.drop rfl ?_
  refine Thins.drop rfl ?_
  apply Thins.keep
  apply Thins.nothing

end Rollcall.Resolver
