import Rollcall.Proofs.Audit.Reads

/-!
# Audits in an outage

An outage that begins during an audit, and goes on, ends the audit with its error: the read that
meets it first is followed by another one, which meets it too, and which is a read that counts. The
exception is an outage of the kind that a resolution takes for the lack of instances, if it begins
with the very last read of the audit, the one from which an instance of the last service is chosen.
-/

namespace Rollcall.Audit

/-- Every read that comes after `i` calls or more fails in one and the same way. -/
def Surroundings.FailsFrom (w : Surroundings) (i : ℕ) (e : Error) : Prop :=
  ∀ j, i ≤ j → ∀ service, read w service j = .error e

/-- After `i` calls all services have been audited but the last, of which `live` instances have been
counted, and none has been chosen yet. -/
def CountsLast (w : Surroundings) (policy : RetryPolicy) (services : List String) (s : Position)
    (i : ℕ) (report : List ServiceAudit) (last : String) (live : ℕ) : Prop :=
  ∃ others s' s'', services = others ++ [last] ∧
    carryOn w (audit policy others) s = (.ok report, s') ∧
    carryOn w (count policy last) s' = (.ok live, s'') ∧ 0 < live ∧ s''.calls = i

variable {w : Surroundings} {policy : RetryPolicy} {service last : String} {services : List String}
  {s s' : Position} {i n m live : ℕ} {e : Error} {result : Except Error ServiceAudit}
  {one : ServiceAudit} {report : List ServiceAudit}

theorem CountsLast.cons (hone : carryOn w (auditOne policy service) s = (.ok one, s'))
    (h : CountsLast w policy services s' i report last live) :
    CountsLast w policy (service :: services) s i (one :: report) last live := by
  obtain ⟨others, mid, after, rfl, haudit, hcount⟩ := h
  refine ⟨service :: others, mid, after, rfl, ?_, hcount⟩
  rw [carryOn_audit_cons, hone]
  simp only [haudit]
  rfl

/-- An outage that has begun before the first read of a service ends the audit. -/
theorem Yields.of_outage (hout : w.FailsFrom i e) (hfound : e.kind ≠ .notFound) (hi : i ≤ n)
    (h : Yields w policy service n result m) : result = .error e := by
  have hread : ∀ k, read w service (n + k) = .error e := fun k => hout _ (by omega) _
  have htally : tally (.error e) = .error e := if_neg hfound
  cases h with
  | failed _ hfailed =>
    cases (hread _).symm.trans hfailed
    rfl
  | absent _ hnone =>
    rw [hread, htally] at hnone
    cases hnone
  | sampled _ hlive => cases (hread _).symm.trans hlive
  | lost _ hlive => cases (hread _).symm.trans hlive

theorem audit_of_outage_begun (hout : w.FailsFrom i e) (hfound : e.kind ≠ .notFound)
    (hi : i ≤ s.calls) (hservices : services ≠ []) :
    (carryOn w (audit policy services) s).1 = .error e := by
  obtain ⟨service, rest, rfl⟩ := List.exists_cons_of_ne_nil hservices
  have hone := (yields_auditOne w policy service s).of_outage hout hfound hi
  rw [carryOn_audit_cons]
  generalize carryOn w (auditOne policy service) s = first at hone
  obtain ⟨result, s'⟩ := first
  cases hone
  rfl

theorem audit_of_outage_later (hout : w.FailsFrom i e) (hfound : e.kind ≠ .notFound)
    (hi : s.calls ≤ i) (hmet : i < (carryOn w (audit policy services) s).2.calls) :
    (carryOn w (audit policy services) s).1 = .error e ∨
      e.kind = .unavailable ∧
        ∃ report last live, CountsLast w policy services s i report last live := by
  induction services generalizing s with
  | nil => exact absurd hmet (not_lt.mpr hi)
  | cons service rest ih =>
    have hyields := yields_auditOne w policy service s
    rw [carryOn_audit_cons] at hmet ⊢
    generalize hone : carryOn w (auditOne policy service) s = first at hyields hmet
    obtain ⟨result, s'⟩ := first
    -- a read that gives anything else comes before the outage
    have hbefore : ∀ {k}, read w service k ≠ .error e → k < i := fun h => by
      by_contra hk
      exact h (hout _ (not_lt.mp hk) _)
    have hnext : ∀ {one}, result = .ok one → s'.calls ≤ i →
        (carryOn w (audit policy rest) s').1.map (one :: ·) = .error e ∨
          e.kind = .unavailable ∧ ∃ report last live,
            CountsLast w policy (service :: rest) s i report last live := by
      rintro one rfl hs'
      rcases ih hs' hmet with hrest | ⟨hkind, report, last, live, hlast⟩
      · exact .inl (by rw [hrest]; rfl)
      · exact .inr ⟨hkind, _, _, _, hlast.cons hone⟩
    generalize hcalls : s'.calls = m at hyields
    cases hyields with
    | @failed k e' hlast hread hkind =>
      left
      change i < s'.calls at hmet
      rw [hcalls] at hmet
      rw [hout _ (Nat.lt_succ_iff.mp hmet)] at hread
      exact congrArg _ (Except.error.inj hread).symm
    | @absent k hlast hread =>
      have hk : s.calls + k < i := hbefore fun h => by
        have htally : tally (.error e) = .error e := if_neg hfound
        rw [h, htally] at hread
        cases hread
      exact hnext rfl (hcalls.trans_le hk)
    | @sampled k live picked hlast hread hlive hsample =>
      have hk : s.calls + k < i := hbefore fun h => by cases h.symm.trans hread
      rcases Nat.lt_or_ge (s.calls + k + 1) i with hlater | hnow
      · exact hnext rfl (hcalls.trans_le hlater)
      · -- the outage begins with the second read
        rw [hout _ hnow] at hsample
        cases hsample with
        | gone hkind =>
          have hcount := count_of_isLast hlast
          rw [hread] at hcount
          cases rest with
          | nil =>
            refine .inr ⟨hkind.resolve_left hfound, [], service, live.length, [], s, _, rfl, rfl,
              hcount, List.length_pos_iff.mpr hlive, ?_⟩
            exact le_antisymm hk hnow
          | cons next rest =>
            left
            have hfails : (carryOn w (audit policy (next :: rest)) s').1 = .error e :=
              audit_of_outage_begun hout hfound (by omega) (List.cons_ne_nil next rest)
            simp only [hfails]
            rfl
    | @lost k live e' hlast hread hlive hsample =>
      left
      have hk : s.calls + k < i := hbefore fun h => by cases h.symm.trans hread
      change i < s'.calls at hmet
      rw [hout _ (by omega)] at hsample
      cases hsample
      rfl

theorem audit_of_countsLast (hout : w.FailsFrom i e) (hkind : e.kind = .unavailable)
    (h : CountsLast w policy services s i report last live) :
    (carryOn w (audit policy services) s).1 = .ok (report ++ [⟨last, live, none⟩]) := by
  obtain ⟨others, mid, after, rfl, haudit, hcount, hlive, hafter⟩ := h
  rw [carryOn_audit_append haudit, carryOn_audit_cons]
  have hone : (carryOn w (auditOne policy last) mid).1 = .ok ⟨last, live, none⟩ := by
    obtain ⟨n, rfl⟩ := Nat.exists_eq_succ_of_ne_zero hlive.ne'
    obtain ⟨hsample, -⟩ := samples_sample w last after
    rw [hout _ hafter.ge] at hsample
    unfold auditOne
    rw [carryOn_bind, hcount]
    change (carryOn w ((sample last).bind _) after).1 = _
    rw [carryOn_bind]
    generalize carryOn w (sample last) after = sampled at hsample
    obtain ⟨result, s'⟩ := sampled
    cases hsample with
    | gone => rfl
    | failed _ hother => exact absurd hkind hother
  generalize carryOn w (auditOne policy last) mid = first at hone
  obtain ⟨result, s'⟩ := first
  cases hone
  rfl

/-- An audit that meets with a lasting outage fails with its error, unless the error says that the
registry is unavailable and the outage begins with the second read of the last service. In that case
the audit succeeds, and reports that service with live instances and none of them. -/
theorem audit_of_outage (w : Surroundings) (policy : RetryPolicy) (services : List String)
    (random : RandomSource) (hout : w.FailsFrom i e) (hfound : e.kind ≠ .notFound)
    (hmet : i < (carryOn w (audit policy services) { random }).2.calls) :
    ((e.kind = .unavailable → ∀ report last live,
        ¬CountsLast w policy services { random } i report last live) →
      (carryOn w (audit policy services) { random }).1 = .error e) ∧
    (e.kind = .unavailable → ∀ report last live,
      CountsLast w policy services { random } i report last live →
        (carryOn w (audit policy services) { random }).1 =
          .ok (report ++ [⟨last, live, none⟩])) := by
  constructor
  · intro hearlier
    rcases audit_of_outage_later hout hfound (Nat.zero_le i) hmet with
      hfails | ⟨hkind, report, last, live, hlast⟩
    · exact hfails
    · exact absurd hlast (hearlier hkind report last live)
  · exact fun hkind report last live => audit_of_countsLast hout hkind

def fading (e : Error) : Surroundings :=
  standing soleInstance 0 fun n => if n = 0 then none else some e

theorem fading_failsFrom (e : Error) : (fading e).FailsFrom 1 e := fun _ hj _ =>
  read_standing_of_some (if_neg (Nat.one_le_iff_ne_zero.mp hj))

theorem audit_of_exhaustion :
    (carryOn (fading (.resourceExhausted "busy")) (audit .standard ["rating"])
      { random := .ofSeed 1 }).1 = .error (.resourceExhausted "busy") :=
  (audit_of_outage _ .standard ["rating"] (.ofSeed 1) (fading_failsFrom _) (by decide)
    (by decide +kernel)).1 nofun

/-- A lasting outage shows in a report as a service with a live instance and none of them. -/
theorem exists_report_in_outage : ∃ (w : Surroundings) (services : List String)
    (random : RandomSource) (i : ℕ) (e : Error) (report : List ServiceAudit),
    w.FailsFrom i e ∧ e.kind ≠ .notFound ∧
      i < (carryOn w (audit .standard services) { random }).2.calls ∧
      (carryOn w (audit .standard services) { random }).1 = .ok report ∧
      ∃ one ∈ report, 0 < one.live ∧ one.picked = none := by
  refine ⟨fading (.unavailable "down"), ["rating"], .ofSeed 1, 1, .unavailable "down",
    [⟨"rating", 1, none⟩], fading_failsFrom _, by decide, by decide +kernel, rfl, _, .head _, ?_⟩
  exact ⟨Nat.one_pos, rfl⟩

end Rollcall.Audit
