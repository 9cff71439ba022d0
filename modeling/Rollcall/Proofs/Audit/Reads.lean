import Rollcall.Audit
import Rollcall.Cluster
import Rollcall.Proofs.Retry
import Rollcall.Random.Source

/-!
# The reads of an audit

An audit reads the addresses of each service until a read is not worth another attempt or the
attempts are used up, and what that gave is the number of live instances. If there are any, it reads
once more, and chooses one from what this read gives. What the reads give is up to the surroundings.
-/

namespace Rollcall.Audit

/-- What an audit meets with: the outcome of each call, by the number of calls made before. -/
abbrev Surroundings : Type := ℕ → (c : Call) → c.Outcome

/-- How far an audit has come: the number of calls made, and what its lots are drawn from next. -/
structure Position where
  calls : ℕ := 0
  random : RandomSource

def answer (w : Surroundings) : (step : Work.Step) → Position → Work.Answer step × Position
  | .call c, s => (w s.calls c, { s with calls := s.calls + 1 })
  | .choose more, s => ((s.random.choose more).1, { s with random := (s.random.choose more).2 })
  | .mark _ _, s => ((), s)

/-- Go on from a position. -/
def carryOn {α : Type} (w : Surroundings) (p : Plan Work α) (s : Position) : α × Position :=
  p.run (answer w) (fun _ s => s) s

/-- What the read of a service gives that comes after `n` calls. -/
def read (w : Surroundings) (service : String) (n : ℕ) : Except Error (List String) :=
  w n (.addresses service)

def standing (b : Cluster) (now : ℕ) (fails : ℕ → Option Error) : Surroundings := fun n c =>
  match fails n with
  | some e => .error e
  | none => (b.perform now c).1

def soleInstance : Cluster :=
  { registry := ((Registry.withWindow 5).register 0 ⟨"rating-1"⟩ "rating" "localhost:9000").2 }

def tally : Except Error (List String) → Except Error ℕ
  | .ok live => .ok live.length
  | .error e => if e.kind = .notFound then .ok 0 else .error e

/-- What an audit takes from the second read of a service. -/
inductive Samples : Except Error (List String) → Except Error (Option String) → Prop
  | picked {live : List String} {address : String} (h : address ∈ live) :
      Samples (.ok live) (.ok (some address))
  | empty : Samples (.ok []) (.ok none)
  | gone {e : Error} (h : e.kind = .notFound ∨ e.kind = .unavailable) : Samples (.error e) (.ok none)
  | failed {e : Error} (hfound : e.kind ≠ .notFound) (havailable : e.kind ≠ .unavailable) :
      Samples (.error e) (.error e)

variable {w : Surroundings} {policy : RetryPolicy} {service : String} {services : List String}
  {s : Position} {n m : ℕ}

section Standing

variable {b : Cluster} {now : ℕ} {fails : ℕ → Option Error}

theorem read_standing_of_some {e : Error} (h : fails n = some e) :
    read (standing b now fails) service n = .error e := by
  unfold read standing
  rw [h]

theorem read_standing_of_none (h : fails n = none) :
    read (standing b now fails) service n = b.registry.addresses now service := by
  unfold read standing
  rw [h]
  rfl

end Standing

theorem carryOn_bind {α β : Type} (p : Plan Work α) (f : α → Plan Work β) (s : Position) :
    carryOn w (p.bind f) s = carryOn w (f (carryOn w p s).1) (carryOn w p s).2 :=
  Plan.run_bind _ _ p f s

/-- Attempts at a read are calls, one after the other, and the last one decides. -/
theorem exists_read (w : Surroundings) (policy : RetryPolicy) (service : String) (s : Position) :
    ∃ k, policy.IsLast (fun j => read w service (s.calls + j)) k ∧
      carryOn w (policy.run fun _ => Work.call (.addresses service)) s =
        (read w service (s.calls + k), { s with calls := s.calls + k + 1 }) := by
  let attempt (_ : ℕ) : Plan Work (Except Error (List String)) := Work.call (.addresses service)
  have hstate : ∀ j, RetryPolicy.stateAt policy.interval attempt (answer w) (fun _ s => s) s j =
      { s with calls := s.calls + j } := by
    intro j
    induction j with
    | zero => rfl
    | succ j ih =>
      change (carryOn w (attempt j) (RetryPolicy.stateAt policy.interval attempt _ _ _ j)).2 = _
      rw [ih]
      rfl
  have hattempt : ∀ j, RetryPolicy.attemptAt policy.interval attempt (answer w) (fun _ s => s) s j =
      (read w service (s.calls + j), { s with calls := s.calls + j + 1 }) := by
    intro j
    change carryOn w (attempt j) (RetryPolicy.stateAt policy.interval attempt _ _ _ j) = _
    rw [hstate]
    rfl
  obtain ⟨k, hlast, hrun⟩ := RetryPolicy.run_run attempt (answer w) (fun _ s => s) s policy
  simp only [hattempt] at hlast
  exact ⟨k, hlast, hrun.trans (hattempt k)⟩

theorem exists_count (w : Surroundings) (policy : RetryPolicy) (service : String) (s : Position) :
    ∃ k, policy.IsLast (fun j => read w service (s.calls + j)) k ∧
      carryOn w (count policy service) s =
        (tally (read w service (s.calls + k)), { s with calls := s.calls + k + 1 }) := by
  obtain ⟨k, hlast, hrun⟩ := exists_read w policy service s
  refine ⟨k, hlast, ?_⟩
  unfold count
  rw [carryOn_bind, hrun]
  rfl

theorem samples_sample (w : Surroundings) (service : String) (s : Position) :
    Samples (read w service s.calls) (carryOn w (sample service) s).1 ∧
      (carryOn w (sample service) s).2.calls = s.calls + 1 := by
  unfold sample
  rw [carryOn_bind]
  unfold Resolver.resolve read carryOn
  simp only [Plan.run, answer]
  rcases (w s.calls (.addresses service) : Except Error (List String)) with e | live
  · refine ⟨?_, rfl⟩
    simp only [Plan.run, Resolver.readingError]
    split_ifs with hfound hkind hkind
    · exact .gone (.inl hfound)
    · exact absurd rfl hkind
    · exact .gone (.inr hkind)
    · exact .failed hfound hkind
  · cases live with
    | nil => exact ⟨.empty, rfl⟩
    | cons first rest => exact ⟨.picked (List.get_mem _ _), rfl⟩

/-- What an audit makes of one service, after `n` calls, and how many calls it has made then. -/
inductive Yields (w : Surroundings) (policy : RetryPolicy) (service : String) (n : ℕ) :
    Except Error ServiceAudit → ℕ → Prop
  | failed {k e} (hlast : policy.IsLast (fun j => read w service (n + j)) k)
      (hread : read w service (n + k) = .error e) (hfound : e.kind ≠ .notFound) :
      Yields w policy service n (.error e) (n + k + 1)
  | absent {k} (hlast : policy.IsLast (fun j => read w service (n + j)) k)
      (hread : tally (read w service (n + k)) = .ok 0) :
      Yields w policy service n (.ok ⟨service, 0, none⟩) (n + k + 1)
  | sampled {k live picked} (hlast : policy.IsLast (fun j => read w service (n + j)) k)
      (hread : read w service (n + k) = .ok live) (hlive : live ≠ [])
      (hsample : Samples (read w service (n + k + 1)) (.ok picked)) :
      Yields w policy service n (.ok ⟨service, live.length, picked⟩) (n + k + 2)
  | lost {k live e} (hlast : policy.IsLast (fun j => read w service (n + j)) k)
      (hread : read w service (n + k) = .ok live) (hlive : live ≠ [])
      (hsample : Samples (read w service (n + k + 1)) (.error e)) :
      Yields w policy service n (.error e) (n + k + 2)

theorem yields_auditOne (w : Surroundings) (policy : RetryPolicy) (service : String) (s : Position) :
    Yields w policy service s.calls (carryOn w (auditOne policy service) s).1
      (carryOn w (auditOne policy service) s).2.calls := by
  obtain ⟨k, hlast, hcount⟩ := exists_count w policy service s
  unfold auditOne
  rw [carryOn_bind, hcount]
  cases hread : read w service (s.calls + k) with
  | error e =>
    by_cases hfound : e.kind = .notFound
    · have htally : tally (.error e) = .ok 0 := if_pos hfound
      rw [htally]
      exact .absent hlast (by rw [hread, htally])
    · have htally : tally (.error e) = .error e := if_neg hfound
      rw [htally]
      exact .failed hlast hread hfound
  | ok live =>
    cases live with
    | nil => exact .absent hlast (by rw [hread]; rfl)
    | cons first rest =>
      obtain ⟨hsample, hcalls⟩ :=
        samples_sample w service { s with calls := s.calls + k + 1 }
      change Yields _ _ _ _ (carryOn w ((sample service).bind _) _).1
        (carryOn w ((sample service).bind _) _).2.calls
      rw [carryOn_bind]
      generalize carryOn w (sample service) _ = sampled at hsample hcalls
      obtain ⟨result, s'⟩ := sampled
      simp only at hcalls
      rcases result with e | picked
      · have hlost := Yields.lost hlast hread nofun hsample
        rwa [← hcalls] at hlost
      · have hpicked := Yields.sampled hlast hread nofun hsample
        rwa [← hcalls] at hpicked

theorem count_of_isLast {k : ℕ}
    (hlast : policy.IsLast (fun j => read w service (s.calls + j)) k) :
    carryOn w (count policy service) s =
      (tally (read w service (s.calls + k)), { s with calls := s.calls + k + 1 }) := by
  obtain ⟨l, hl, hcount⟩ := exists_count w policy service s
  rwa [hl.unique hlast] at hcount

theorem carryOn_audit_cons (w : Surroundings) (policy : RetryPolicy) (service : String)
    (services : List String) (s : Position) :
    carryOn w (audit policy (service :: services)) s =
      match carryOn w (auditOne policy service) s with
      | (.error e, s') => (.error e, s')
      | (.ok one, s') => ((carryOn w (audit policy services) s').1.map (one :: ·),
          (carryOn w (audit policy services) s').2) := by
  rw [audit, carryOn_bind]
  generalize carryOn w (auditOne policy service) s = first
  obtain ⟨e | one, s'⟩ := first
  · rfl
  · simp only
    rw [carryOn_bind]
    generalize carryOn w (audit policy services) s' = others
    obtain ⟨e | more, s''⟩ := others <;> rfl

theorem carryOn_audit_append {report : List ServiceAudit} {s' : Position}
    (h : carryOn w (audit policy services) s = (.ok report, s')) (others : List String) :
    carryOn w (audit policy (services ++ others)) s =
      ((carryOn w (audit policy others) s').1.map (report ++ ·),
        (carryOn w (audit policy others) s').2) := by
  induction services generalizing s report with
  | nil =>
    cases h
    rw [List.nil_append]
    generalize carryOn w (audit policy others) s' = last
    obtain ⟨e | more, s''⟩ := last <;> rfl
  | cons service services ih =>
    rw [carryOn_audit_cons] at h
    rw [List.cons_append, carryOn_audit_cons]
    generalize carryOn w (auditOne policy service) s = first at h ⊢
    obtain ⟨e | one, s₁⟩ := first
    · cases h
    · simp only [Prod.mk.injEq] at h
      obtain ⟨hrest, hs'⟩ := h
      generalize hmore : carryOn w (audit policy services) s₁ = rest at hrest hs'
      obtain ⟨e | more, s₂⟩ := rest
      · cases hrest
      · cases hrest
        cases hs'
        simp only [ih hmore]
        generalize (carryOn w (audit policy others) _).1 = last
        rcases last with e | last <;> rfl

end Rollcall.Audit
