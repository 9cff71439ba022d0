import Rollcall.Fleet.Basic
import Rollcall.Proofs.Consul.Addresses
import Rollcall.Proofs.Consul.Sessions

/-!
# The dealings of a lock provider with an agent

A provider deals with its agent in requests, and between a request and its delivery anything may
happen: a renewal that has begun waits for its next delivery, and so does everybody who wants to
take a key or to give one back. They share the session of the provider. A renewal replaces it when
it is over; who takes a key keeps to the session that the provider had at the time.

The dealings are made of the plans of the provider and of its guards, put to the agent request by
request. A run of them is the list of its incidents, the latest first.
-/

namespace Rollcall.Consul

open Http

/-- Somebody who takes a key or gives it back: the key and the session, and what is left to do. -/
structure Errand (α : Type) where
  guard : LockGuard
  rest : Plan Exchange α

inductive Stage where
  | serving
  /-- It is being closed, which the renewal has not noticed yet. -/
  | closing
  | gone
  deriving DecidableEq

structure Dealings where
  provider : LockProvider
  /-- What is left of a renewal that has begun. -/
  renewal : Option (Plan Exchange LockProvider) := none
  attempts : List (Errand (Except Error (Option LockGuard))) := []
  guards : List LockGuard := []
  returns : List (Errand (Except Error Unit)) := []
  stage : Stage := .serving

inductive Incident where
  | begun (now : ℕ)
  | renewed (q : Request) (d : Delivery)
  | sought (key : String)
  /-- The request has met its delivery, and this has come of it. -/
  | decided (g : LockGuard) (q : Request) (d : Delivery) (r : Except Error (Option LockGuard))
  | returned (g : LockGuard)
  | released (g : LockGuard) (q : Request) (d : Delivery)
  | closed
  /-- The renewal has noticed that its provider is being closed. -/
  | ended
  | dropped

namespace Dealings

def goOn (d : Dealings) : Plan Exchange LockProvider → Dealings
  | .done provider => { d with provider, renewal := none }
  | rest => { d with renewal := some rest }

def won : Except Error (Option LockGuard) → List LockGuard
  | .ok (some g) => [g]
  | _ => []

/-- What may happen next. The session of the provider is read where a renewal begins and where
somebody sets out to take a key, and written where a renewal is over. -/
inductive Step (s : AgentSettings) : Dealings → Incident → Dealings → Prop
  | begin {d now} (ho : d.stage ≠ .gone) (hr : d.renewal = none)
      (hdue : d.provider.ticker.due ≤ now) :
      Step s d (.begun now) { d with renewal := some ((d.provider.tick now).interpret s.plan) }
  | renew {d : Dealings} {q : Request} {next : Delivery → Plan Exchange LockProvider}
      (hr : d.renewal = some (.ask q next)) (delivery : Delivery) :
      Step s d (.renewed q delivery) (d.goOn (next delivery))
  | seek {d} (ho : d.stage = .serving) (key : String) :
      Step s d (.sought key) { d with
        attempts := ⟨⟨key, d.provider.session⟩, attempt s ⟨key, d.provider.session⟩⟩ :: d.attempts }
  | decide {d : Dealings} {before after : List (Errand (Except Error (Option LockGuard)))}
      {g : LockGuard} {q : Request}
      {next : Delivery → Plan Exchange (Except Error (Option LockGuard))} {delivery : Delivery}
      {r : Except Error (Option LockGuard)}
      (ha : d.attempts = before ++ ⟨g, .ask q next⟩ :: after) (hr : next delivery = .done r) :
      Step s d (.decided g q delivery r)
        { d with attempts := before ++ after, guards := won r ++ d.guards }
  | giveUp {d : Dealings} {g : LockGuard} (hg : g ∈ d.guards) :
      Step s d (.returned g) { d with
        guards := d.guards.erase g, returns := ⟨g, giveBack s g⟩ :: d.returns }
  | release {d : Dealings} {before after : List (Errand (Except Error Unit))} {g : LockGuard}
      {q : Request} {next : Delivery → Plan Exchange (Except Error Unit)} {delivery : Delivery}
      {r : Except Error Unit}
      (ha : d.returns = before ++ ⟨g, .ask q next⟩ :: after) (hr : next delivery = .done r) :
      Step s d (.released g q delivery) { d with returns := before ++ after }
  | close {d} (ho : d.stage = .serving) : Step s d .closed { d with stage := .closing }
  | finish {d} (ho : d.stage = .closing) (hr : d.renewal = none) :
      Step s d .ended { d with stage := .gone }
  | drop (d) : Step s d .dropped { d with stage := .gone, renewal := none }

inductive Run (s : AgentSettings) (d₀ : Dealings) : List Incident → Dealings → Prop
  | start : Run s d₀ [] d₀
  | step {h i d d'} (r : Run s d₀ h d) (hs : Step s d i d') : Run s d₀ (i :: h) d'

variable {s : AgentSettings} {d₀ d d' : Dealings} {i : Incident} {h : List Incident}
  {p : LockProvider}

/-- The requests of renewals with what became of them, the latest first. -/
def renewals (h : List Incident) : List (Request × Delivery) :=
  h.filterMap fun
    | .renewed q d => some (q, d)
    | _ => none

/-- The session that a provider has after its renewals, and whether it has just turned out to be
unknown to the agent. -/
inductive Standing (s : AgentSettings) (ttl : ℕ) (first : SessionId) :
    List (Request × Delivery) → SessionId → Bool → Prop
  | first : Standing s ttl first [] first false
  | kept {l session} (h : Standing s ttl first l session false) {d : Delivery}
      (hd : ¬ IsUnknown d) :
      Standing s ttl first ((renewalMessage s.client session, d) :: l) session false
  | lost {l session} (h : Standing s ttl first l session false) {d : Delivery}
      (hd : IsUnknown d) :
      Standing s ttl first ((renewalMessage s.client session, d) :: l) session true
  | replaced {l session} (h : Standing s ttl first l session true) {d : Delivery}
      {fresh : SessionId} (hd : Grants d fresh) :
      Standing s ttl first ((sessionMessage s.client s.sessionName ttl, d) :: l) fresh false
  | refused {l session} (h : Standing s ttl first l session true) {d : Delivery}
      (hd : ∀ fresh, ¬ Grants d fresh) :
      Standing s ttl first ((sessionMessage s.client s.sessionName ttl, d) :: l) session false

/-- What is left of a renewal, according to whether the session has turned out to be unknown. -/
inductive Left (s : AgentSettings) (p : LockProvider) :
    Option (Plan Exchange LockProvider) → Bool → Prop
  | nothing : Left s p none false
  | renewal {now rest} (h : IsRenewal s p now rest) : Left s p (some rest) false
  | replacement {now rest} (h : IsReplacement s p now rest) : Left s p (some rest) true

/-- The provider has the session that its renewals have left it with, and is in the middle of the
next one or waits for it. -/
structure Renews (s : AgentSettings) (p : LockProvider) (h : List Incident) (d : Dealings) :
    Prop where
  ttl_eq : d.provider.ttl = p.ttl
  standing : ∃ lost, Standing s p.ttl p.session (renewals h) d.provider.session lost ∧
    (d.stage ≠ .gone → Left s d.provider d.renewal lost)
  idle : d.stage = .gone → d.renewal = none
  closed : d.stage = .closing → .closed ∈ h
  gone : d.stage = .gone → .closed ∈ h ∨ .dropped ∈ h

@[simp] theorem stage_goOn (d : Dealings) (rest : Plan Exchange LockProvider) :
    (d.goOn rest).stage = d.stage := by
  cases rest <;> rfl

theorem goOn_ask (d : Dealings) (q : Request) (next : Delivery → Plan Exchange LockProvider) :
    d.goOn (.ask q next) = { d with renewal := some (.ask q next) } := rfl

theorem goOn_done (d : Dealings) (provider : LockProvider) :
    d.goOn (.done provider) = { d with provider, renewal := none } := rfl

theorem renewals_cons_of_ne (hi : ∀ q δ, i ≠ .renewed q δ) (h : List Incident) :
    renewals (i :: h) = renewals h := by
  unfold renewals
  cases i with
  | renewed q δ => exact absurd rfl (hi q δ)
  | _ => rfl

theorem Renews.of_eq (hr : Renews s p h d) (hi : ∀ q δ, i ≠ .renewed q δ)
    (hprovider : d'.provider = d.provider) (hrenewal : d'.renewal = d.renewal)
    (hstage : d'.stage = d.stage) : Renews s p (i :: h) d' := by
  obtain ⟨httl, hstanding, hidle, hclosed, hgone⟩ := hr
  refine ⟨?_, ?_, ?_, ?_, ?_⟩
  · rw [hprovider, httl]
  · rwa [renewals_cons_of_ne hi, hprovider, hrenewal, hstage]
  · rwa [hrenewal, hstage]
  · rw [hstage]
    exact fun h => List.mem_cons_of_mem _ (hclosed h)
  · rw [hstage]
    exact fun h => (hgone h).imp (List.mem_cons_of_mem _) (List.mem_cons_of_mem _)

theorem Renews.goOn (hr : Renews s p h d) (hstage : d.stage ≠ .gone)
    (httl : d'.provider.ttl = d.provider.ttl) (hstage' : d'.stage = d.stage) {lost : Bool}
    (hs : Standing s p.ttl p.session (renewals (i :: h)) d'.provider.session lost)
    (hleft : Left s d'.provider d'.renewal lost) : Renews s p (i :: h) d' := by
  refine ⟨httl.trans hr.ttl_eq, ⟨lost, hs, fun _ => hleft⟩, ?_, ?_, ?_⟩
  · intro hgone
    exact absurd (hstage'.symm.trans hgone) hstage
  · intro hclosing
    exact List.mem_cons_of_mem _ (hr.closed (hstage'.symm.trans hclosing))
  · intro hgone
    exact absurd (hstage'.symm.trans hgone) hstage

theorem Renews.renewed (hr : Renews s p h d) {q : Request}
    {next : Delivery → Plan Exchange LockProvider} (hrest : d.renewal = some (.ask q next))
    (δ : Delivery) : Renews s p (.renewed q δ :: h) (d.goOn (next δ)) := by
  have hstage : d.stage ≠ .gone := by
    intro hgone
    cases hrest.symm.trans (hr.idle hgone)
  obtain ⟨lost, hs, hleft⟩ := hr.standing
  have hleft := hleft hstage
  rw [hrest] at hleft
  -- What is delivered meets a renewal proper or the request for another session.
  cases hleft with
  | renewal h =>
    obtain ⟨next', heq, hnext⟩ := h
    cases heq
    by_cases hunknown : IsUnknown δ
    · obtain ⟨again, heq, hagain⟩ := (hnext δ).2 hunknown
      rw [heq, goOn_ask]
      exact hr.goOn hstage rfl rfl (hs.lost hunknown) (.replacement ⟨again, rfl, hagain⟩)
    · rw [(hnext δ).1 hunknown, goOn_done]
      exact hr.goOn hstage rfl rfl (hs.kept hunknown) .nothing
  | replacement h =>
    obtain ⟨next', heq, hnext⟩ := h
    cases heq
    by_cases hgrants : ∃ session, Grants δ session
    · obtain ⟨session, hgrants⟩ := hgrants
      rw [(hnext δ).1 session hgrants, goOn_done]
      refine hr.goOn hstage rfl rfl ?_ .nothing
      rw [hr.ttl_eq]
      exact hs.replaced hgrants
    · rw [(hnext δ).2 (not_exists.mp hgrants), goOn_done]
      refine hr.goOn hstage rfl rfl ?_ .nothing
      rw [hr.ttl_eq]
      exact hs.refused (not_exists.mp hgrants)

theorem Renews.step (hs : s.client.Sends) (hr : Renews s p h d) (hstep : Step s d i d') :
    Renews s p (i :: h) d' := by
  cases hstep with
  | begin ho hnone hdue =>
    obtain ⟨lost, hstanding, hleft⟩ := hr.standing
    have hleft := hleft ho
    rw [hnone] at hleft
    cases hleft
    exact hr.goOn ho rfl rfl hstanding (.renewal (isRenewal_tick hs _ _))
  | renew hrest δ => exact hr.renewed hrest δ
  | close ho =>
    obtain ⟨lost, hstanding, hleft⟩ := hr.standing
    refine ⟨hr.ttl_eq, ⟨lost, hstanding, fun _ => hleft (by simp [ho])⟩, nofun, ?_, nofun⟩
    intro _
    exact List.mem_cons_self
  | finish ho hnone =>
    obtain ⟨lost, hstanding, hleft⟩ := hr.standing
    refine ⟨hr.ttl_eq, ⟨lost, hstanding, fun h => absurd rfl h⟩, fun _ => hnone, nofun, ?_⟩
    intro _
    exact .inl (List.mem_cons_of_mem _ (hr.closed ho))
  | drop =>
    obtain ⟨lost, hstanding, hleft⟩ := hr.standing
    refine ⟨hr.ttl_eq, ⟨lost, hstanding, fun h => absurd rfl h⟩, fun _ => rfl, nofun, ?_⟩
    intro _
    exact .inr List.mem_cons_self
  | seek => exact hr.of_eq (by simp) rfl rfl rfl
  | decide => exact hr.of_eq (by simp) rfl rfl rfl
  | giveUp => exact hr.of_eq (by simp) rfl rfl rfl
  | release => exact hr.of_eq (by simp) rfl rfl rfl

theorem Run.renews (hs : s.client.Sends) (r : Run s { provider := p } h d) : Renews s p h d := by
  induction r with
  | start =>
    exact ⟨rfl, ⟨false, .first, fun _ => .nothing⟩, nofun, nofun, nofun⟩
  | step r hstep ih => exact ih.step hs hstep

theorem Run.begins_of_none (r : Run s d₀ h d) (ho : d.stage ≠ .gone) (hnone : d.renewal = none) :
    ∃ now d', Run s d₀ (.begun now :: h) d' :=
  ⟨_, _, r.step (.begin ho hnone le_rfl)⟩

theorem Run.gets_session (hs : s.client.Sends) (r : Run s d₀ h d) (ho : d.stage ≠ .gone)
    (hnone : d.renewal = none) {δ₁ δ₂ : Delivery} (hunknown : IsUnknown δ₁) {session : SessionId}
    (hgrants : Grants δ₂ session) : ∃ now q₁ q₂,
      Run s d₀ (.renewed q₂ δ₂ :: .renewed q₁ δ₁ :: .begun now :: h)
        { d with provider := ticked d.provider now session, renewal := none } := by
  obtain ⟨next, htick, hnext⟩ := isRenewal_tick hs d.provider d.provider.ticker.due
  obtain ⟨next', hrest, hnext'⟩ := (hnext δ₁).2 hunknown
  have r₁ := r.step (.begin ho hnone le_rfl)
  rw [htick] at r₁
  have r₂ := r₁.step (.renew rfl δ₁)
  rw [hrest, goOn_ask] at r₂
  have r₃ := r₂.step (.renew rfl δ₂)
  rw [(hnext' δ₂).1 session hgrants, goOn_done] at r₃
  exact ⟨_, _, _, r₃⟩

theorem Run.replaces (r : Run s d₀ h d) {now : ℕ} {rest : Plan Exchange LockProvider}
    (hrest : IsReplacement s d.provider now rest) (hrenewal : d.renewal = some rest)
    (δ : Delivery) : ∃ q d', Run s d₀ (.renewed q δ :: h) d' ∧ d'.renewal = none ∧
      d'.stage = d.stage := by
  obtain ⟨next, rfl, hend⟩ := hrest.over
  refine ⟨_, _, r.step (.renew hrenewal δ), ?_, stage_goOn _ _⟩
  obtain ⟨session, hend⟩ := hend δ
  rw [hend, goOn_done]

/-- Whatever is delivered, a renewal begins after two deliveries at the latest. -/
theorem Run.begins (r : Run s d₀ h d) (ho : d.stage ≠ .gone) {lost : Bool}
    (hleft : Left s d.provider d.renewal lost) (δ₁ δ₂ : Delivery) : ∃ now l d',
      Run s d₀ (.begun now :: (l ++ h)) d' ∧
        (l = [] ∨ (∃ q, l = [.renewed q δ₁]) ∨ ∃ q q', l = [.renewed q' δ₂, .renewed q δ₁]) := by
  generalize hrenewal : d.renewal = renewal at hleft
  cases hleft with
  | nothing =>
    obtain ⟨now, d', r'⟩ := r.begins_of_none ho hrenewal
    exact ⟨now, [], d', r', .inl rfl⟩
  | replacement hrest =>
    obtain ⟨q, d', r', hnone, hstage⟩ := r.replaces hrest hrenewal δ₁
    obtain ⟨now, d'', r''⟩ := r'.begins_of_none (hstage.symm ▸ ho) hnone
    exact ⟨now, [.renewed q δ₁], d'', r'', .inr (.inl ⟨q, rfl⟩)⟩
  | renewal hrest =>
    obtain ⟨next, rfl, hnext⟩ := hrest
    have r₁ := r.step (.renew hrenewal δ₁)
    have ho₁ : (d.goOn (next δ₁)).stage ≠ .gone := by rwa [stage_goOn]
    by_cases hunknown : IsUnknown δ₁
    · obtain ⟨next', heq, hnext'⟩ := (hnext δ₁).2 hunknown
      rw [heq, goOn_ask] at r₁
      obtain ⟨q, d', r₂, hnone, hstage⟩ := r₁.replaces ⟨next', rfl, hnext'⟩ rfl δ₂
      obtain ⟨now, d'', r₃⟩ := r₂.begins_of_none (by rwa [hstage]) hnone
      exact ⟨now, [.renewed q δ₂, .renewed _ δ₁], d'', r₃, .inr (.inr ⟨_, _, rfl⟩)⟩
    · rw [(hnext δ₁).1 hunknown] at r₁
      obtain ⟨now, d', r₂⟩ := r₁.begins_of_none ho rfl
      exact ⟨now, [.renewed _ δ₁], d', r₂, .inr (.inl ⟨_, rfl⟩)⟩

/-- What comes of the request for a key: the guard if the agent says so, no guard if it says so, and
an error otherwise. -/
structure Decides (s : AgentSettings) (g : LockGuard) (q : Request) (δ : Delivery)
    (r : Except Error (Option LockGuard)) : Prop where
  request_eq : q = keyMessage s.client "acquire" g
  won_iff : r = .ok (some g) ↔ Says δ (.bool true)
  lost_iff : r = .ok none ↔ Says δ (.bool false)
  eq_of_won : ∀ g', r = .ok (some g') → g' = g

/-- Everybody who seeks a key goes by the plan for it, and has gone by it. -/
structure Attempts (s : AgentSettings) (h : List Incident) (d : Dealings) : Prop where
  rest_eq : ∀ e ∈ d.attempts, e.rest = attempt s e.guard
  decides : ∀ g q δ r, .decided g q δ r ∈ h → Decides s g q δ r

@[simp] theorem attempts_goOn (d : Dealings) (rest : Plan Exchange LockProvider) :
    (d.goOn rest).attempts = d.attempts := by
  cases rest <;> rfl

theorem Attempts.of_eq (ha : Attempts s h d) (hi : ∀ g q δ r, i ≠ .decided g q δ r)
    (hattempts : d'.attempts = d.attempts) : Attempts s (i :: h) d' := by
  refine ⟨?_, ?_⟩
  · rw [hattempts]
    exact ha.rest_eq
  · intro g q δ r hmem
    rcases List.mem_cons.mp hmem with heq | hmem
    · exact absurd heq.symm (hi g q δ r)
    · exact ha.decides g q δ r hmem

theorem Attempts.step (hs : s.client.Sends) (ha : Attempts s h d) (hstep : Step s d i d') :
    Attempts s (i :: h) d' := by
  cases hstep with
  | seek ho key =>
    refine ⟨?_, ?_⟩
    · intro e he
      rcases List.mem_cons.mp he with heq | he
      · rw [heq]
      · exact ha.rest_eq e he
    · intro g q δ r hmem
      exact ha.decides g q δ r ((List.mem_cons.mp hmem).resolve_left (by simp))
  | @decide before after g q next δ r hsplit hdone =>
    have hrest := ha.rest_eq
    rw [hsplit] at hrest
    refine ⟨?_, ?_⟩
    · intro e he
      exact hrest e (((List.sublist_cons_self _ after).append_left before).subset he)
    · intro g' q' δ' r' hmem
      rcases List.mem_cons.mp hmem with heq | hmem
      · cases heq
        -- What was left of the errand is the plan for the key, so `next` is what it relays.
        obtain ⟨f, hrelays, hf⟩ := attempt_relays hs g
        have hask := hrest _ (List.mem_append_right before List.mem_cons_self)
        unfold Plan.Relays at hrelays
        rw [hrelays] at hask
        cases hask
        cases hdone
        exact ⟨rfl, (hf δ).1, (hf δ).2.1, (hf δ).2.2⟩
      · exact ha.decides g' q' δ' r' hmem
  | renew => exact ha.of_eq (by simp) (attempts_goOn _ _)
  | begin => exact ha.of_eq (by simp) rfl
  | giveUp => exact ha.of_eq (by simp) rfl
  | release => exact ha.of_eq (by simp) rfl
  | close => exact ha.of_eq (by simp) rfl
  | finish => exact ha.of_eq (by simp) rfl
  | drop => exact ha.of_eq (by simp) rfl

theorem Run.attempts (hs : s.client.Sends) (r : Run s { provider := p } h d) : Attempts s h d := by
  induction r with
  | start => exact ⟨by simp, by simp⟩
  | step r hstep ih => exact ih.step hs hstep

theorem Run.takes (hs : s.client.Sends) (r : Run s d₀ h d) (ho : d.stage = .serving) (key : String)
    {δ : Delivery} (hyes : Says δ (.bool true)) : ∃ q,
      Run s d₀ (.decided ⟨key, d.provider.session⟩ q δ (.ok (some ⟨key, d.provider.session⟩)) ::
        .sought key :: h) { d with guards := ⟨key, d.provider.session⟩ :: d.guards } := by
  obtain ⟨f, hrelays, hf⟩ := attempt_relays hs ⟨key, d.provider.session⟩
  unfold Plan.Relays at hrelays
  have r₁ := r.step (.seek ho key)
  rw [hrelays] at r₁
  have hdone : (Plan.done (f δ) : Plan Exchange _) = .done (.ok (some _)) :=
    congrArg Plan.done ((hf δ).1.mpr hyes)
  exact ⟨_, r₁.step (@Step.decide s _ [] _ _ _ _ _ _ rfl hdone)⟩

theorem Attempts.exists_decided (hs : s.client.Sends) (ha : Attempts s h d) :
    ∀ e ∈ d.attempts, ∀ δ, ∃ q r d', Step s d (.decided e.guard q δ r) d' := by
  rintro ⟨g, rest⟩ he δ
  obtain ⟨before, after, hsplit⟩ := List.append_of_mem he
  obtain ⟨f, hrelays, -⟩ := attempt_relays hs g
  have hrest := ha.rest_eq _ he
  unfold Plan.Relays at hrelays
  simp only [hrelays] at hrest
  subst hrest
  exact ⟨_, _, _, .decide hsplit rfl⟩

def Taken (g : LockGuard) (h : List Incident) : Prop :=
  ∃ q δ, .decided g q δ (.ok (some g)) ∈ h

theorem Taken.cons {g : LockGuard} (ht : Taken g h) (i : Incident) : Taken g (i :: h) := by
  obtain ⟨q, δ, hmem⟩ := ht
  exact ⟨q, δ, List.mem_cons_of_mem i hmem⟩

/-- Every guard comes from a key that was taken, and goes back by the plan for it. -/
structure Guards (s : AgentSettings) (h : List Incident) (d : Dealings) : Prop where
  taken : ∀ g ∈ d.guards, Taken g h
  returns : ∀ e ∈ d.returns, e.rest = giveBack s e.guard ∧ Taken e.guard h
  released : ∀ later g q δ earlier, h = later ++ .released g q δ :: earlier →
    q = keyMessage s.client "release" g ∧ Taken g earlier

@[simp] theorem guards_goOn (d : Dealings) (rest : Plan Exchange LockProvider) :
    (d.goOn rest).guards = d.guards := by
  cases rest <;> rfl

@[simp] theorem returns_goOn (d : Dealings) (rest : Plan Exchange LockProvider) :
    (d.goOn rest).returns = d.returns := by
  cases rest <;> rfl

theorem Guards.cons (hg : Guards s h d)
    (hi : ∀ g q δ, i = .released g q δ → q = keyMessage s.client "release" g ∧ Taken g h)
    (hguards : ∀ g ∈ d'.guards, g ∈ d.guards ∨ Taken g (i :: h))
    (hreturns : ∀ e ∈ d'.returns, e ∈ d.returns ∨
      e.rest = giveBack s e.guard ∧ Taken e.guard h) :
    Guards s (i :: h) d' := by
  refine ⟨?_, ?_, ?_⟩
  · intro g hmem
    rcases hguards g hmem with hmem | ht
    · exact (hg.taken g hmem).cons i
    · exact ht
  · intro e hmem
    rcases hreturns e hmem with hmem | ⟨hrest, ht⟩
    · exact ⟨(hg.returns e hmem).1, (hg.returns e hmem).2.cons i⟩
    · exact ⟨hrest, ht.cons i⟩
  · intro later g q δ earlier heq
    cases later with
    | nil =>
      cases heq
      exact hi g q δ rfl
    | cons i' later =>
      cases heq
      exact hg.released later g q δ earlier rfl

theorem mem_won_iff {r : Except Error (Option LockGuard)} {g : LockGuard} :
    g ∈ won r ↔ r = .ok (some g) := by
  unfold won
  split
  · simp [eq_comm]
  · next hne =>
    simp only [List.not_mem_nil, false_iff]
    exact hne g

theorem Guards.step (hs : s.client.Sends) (hg : Guards s h d) (hstep : Step s d i d')
    (ha : Attempts s (i :: h) d') : Guards s (i :: h) d' := by
  cases hstep with
  | @decide before after g q next δ r hsplit hdone =>
    refine hg.cons (by simp) ?_ (fun e he => .inl he)
    intro g' hmem
    rcases List.mem_append.mp hmem with hwon | hmem
    -- The only guard that a key yields is that of its own errand.
    · have hr := mem_won_iff.mp hwon
      obtain rfl := (ha.decides g q δ r List.mem_cons_self).eq_of_won g' hr
      exact .inr ⟨q, δ, hr ▸ List.mem_cons_self⟩
    · exact .inl hmem
  | @giveUp g hmem =>
    refine hg.cons (by simp) (fun g' hg' => .inl (List.mem_of_mem_erase hg')) ?_
    intro e he
    rcases List.mem_cons.mp he with heq | he
    · refine .inr ⟨by rw [heq], ?_⟩
      rw [heq]
      exact hg.taken g hmem
    · exact .inl he
  | @release before after g q next δ r hsplit hdone =>
    have hreturns := hg.returns
    rw [hsplit] at hreturns
    obtain ⟨hrest, ht⟩ := hreturns _ (List.mem_append_right before List.mem_cons_self)
    obtain ⟨f, hrelays⟩ := return_relays hs g
    unfold Plan.Relays at hrelays
    simp only [hrelays] at hrest
    refine hg.cons ?_ (fun g' hg' => .inl hg') ?_
    · intro g' q' δ' heq
      cases heq
      cases hrest
      exact ⟨rfl, ht⟩
    · intro e he
      rw [hsplit]
      exact .inl (((List.sublist_cons_self _ after).append_left before).subset he)
  | renew =>
    refine hg.cons (by simp) ?_ ?_
    · simp +contextual
    · simp +contextual
  | begin => exact hg.cons (by simp) (fun g hg' => .inl hg') (fun e he => .inl he)
  | seek => exact hg.cons (by simp) (fun g hg' => .inl hg') (fun e he => .inl he)
  | close => exact hg.cons (by simp) (fun g hg' => .inl hg') (fun e he => .inl he)
  | finish => exact hg.cons (by simp) (fun g hg' => .inl hg') (fun e he => .inl he)
  | drop => exact hg.cons (by simp) (fun g hg' => .inl hg') (fun e he => .inl he)

theorem Run.guards (hs : s.client.Sends) (r : Run s { provider := p } h d) : Guards s h d := by
  induction r with
  | start =>
    refine ⟨by simp, by simp, ?_⟩
    intro later g q δ earlier heq
    simp at heq
  | step r hstep ih => exact ih.step hs hstep ((r.step hstep).attempts hs)

theorem Run.gives_back (hs : s.client.Sends) (r : Run s d₀ h d) {g : LockGuard}
    (hg : g ∈ d.guards) (δ : Delivery) :
    ∃ q, Run s d₀ (.released g q δ :: .returned g :: h) { d with guards := d.guards.erase g } := by
  obtain ⟨f, hrelays⟩ := return_relays hs g
  unfold Plan.Relays at hrelays
  have r₁ := r.step (.giveUp hg)
  rw [hrelays] at r₁
  have hdone : (Plan.done (f δ) : Plan Exchange _) = .done (f δ) := rfl
  exact ⟨_, r₁.step (@Step.release s _ [] _ _ _ _ _ _ rfl hdone)⟩

theorem Guards.exists_released (hs : s.client.Sends) (hg : Guards s h d) :
    ∀ e ∈ d.returns, ∀ δ, ∃ q d', Step s d (.released e.guard q δ) d' := by
  rintro ⟨g, rest⟩ he δ
  obtain ⟨before, after, hsplit⟩ := List.append_of_mem he
  obtain ⟨f, hrelays⟩ := return_relays hs g
  have hrest := (hg.returns _ he).1
  unfold Plan.Relays at hrelays
  simp only [hrelays] at hrest
  subst hrest
  exact ⟨_, _, .release hsplit rfl⟩

section Fleet

variable {N : Type} [Network N]

/-- A fleet with an agent for its backend carries out calls by putting their requests to it. -/
theorem callAll_eq {α : Type} (f : Fleet (Agent N)) {p : Plan Calls α} {a : α} {network : N}
    (h : Agent.carryOut f.backend.network (p.interpret f.backend.settings.plan) = (a, network)) :
    (f.callAll p).1 = a ∧ (f.callAll p).2.backend = { f.backend with network } := by
  induction p generalizing f with
  | done b =>
    cases h
    exact ⟨rfl, rfl⟩
  | ask c next ih =>
    unfold Agent.carryOut at h
    rw [Plan.interpret, Plan.run_bind] at h
    exact ih _ (f.perform c).2 h
  | wait d next ih => exact ih () f h

theorem Run.ticks (hs : s.client.Sends) (r : Run s d₀ h d) (ho : d.stage ≠ .gone)
    (hnone : d.renewal = none) {now : ℕ} (hdue : d.provider.ticker.due ≤ now) (network : N) :
    ∃ l, Run s d₀ (l ++ h) { d with
      provider := (Agent.carryOut network ((d.provider.tick now).interpret s.plan)).1 } := by
  have r₁ := r.step (.begin ho hnone hdue)
  obtain ⟨next, htick, hnext⟩ := isRenewal_tick hs d.provider now
  rw [htick] at r₁ ⊢
  unfold Agent.carryOut
  rw [Plan.run]
  generalize Network.send network (renewalMessage s.client d.provider.session) = sent
  have r₂ := r₁.step (.renew rfl sent.1)
  by_cases hunknown : IsUnknown sent.1
  · obtain ⟨next', hrest, hend⟩ := ((hnext sent.1).2 hunknown).over
    rw [hrest, goOn_ask] at r₂
    rw [hrest, Plan.run]
    generalize Network.send sent.2 (sessionMessage s.client s.sessionName d.provider.ttl) = sent'
    have r₃ := r₂.step (.renew rfl sent'.1)
    obtain ⟨session, hend⟩ := hend sent'.1
    rw [hend, goOn_done] at r₃
    rw [hend, Plan.run]
    exact ⟨[_, _, _], hnone ▸ r₃⟩
  · have hend := (hnext sent.1).1 hunknown
    rw [hend, goOn_done] at r₂
    rw [hend, Plan.run]
    exact ⟨[_, _], hnone ▸ r₂⟩

/-- Where a fleet has an agent for its backend, to wake a lock provider is a run of its dealings. -/
theorem Run.wake {f : Fleet (Agent N)} (hs : f.backend.settings.client.Sends)
    (r : Run f.backend.settings d₀ h d) (ho : d.stage ≠ .gone) (hnone : d.renewal = none) {n : ℕ}
    {t : Tenancy} (ht : f.locks.get? n = some t) (hprovider : t.provider = d.provider)
    (hdue : d.provider.ticker.due ≤ f.now) : ∃ l provider,
      Run f.backend.settings d₀ (l ++ h) { d with provider } ∧
        (f.wake (.lock n)).locks.get? n = some { t with provider } := by
  obtain ⟨l, r'⟩ := r.ticks hs ho hnone hdue f.backend.network
  refine ⟨l, _, r', ?_⟩
  have hcalls := (callAll_eq f (Prod.mk.eta (p := Agent.carryOut f.backend.network
    ((d.provider.tick f.now).interpret f.backend.settings.plan))).symm).1
  unfold Fleet.wake
  simp only [ht, hprovider]
  rw [← hcalls, Table.get?_put, if_pos rfl]

end Fleet

theorem Standing.exists_before {ttl : ℕ} {first session : SessionId} {q : Request} {δ : Delivery}
    {l : List (Request × Delivery)} {lost : Bool}
    (hs : Standing s ttl first ((q, δ) :: l) session lost) : ∃ before wasLost,
      Standing s ttl first l before wasLost ∧
        ((wasLost = false ∧ session = before ∧ (lost = true ↔ IsUnknown δ)) ∨
          (wasLost = true ∧ lost = false ∧
            (Grants δ session ∨ (session = before ∧ ∀ fresh, ¬ Grants δ fresh)))) := by
  cases hs with
  | kept hs hd => exact ⟨_, _, hs, .inl ⟨rfl, rfl, by simpa using hd⟩⟩
  | lost hs hd => exact ⟨_, _, hs, .inl ⟨rfl, rfl, by simpa using hd⟩⟩
  | replaced hs hd => exact ⟨_, _, hs, .inr ⟨rfl, rfl, .inl hd⟩⟩
  | refused hs hd => exact ⟨_, _, hs, .inr ⟨rfl, rfl, .inr ⟨rfl, hd⟩⟩⟩

theorem Standing.unique {ttl : ℕ} {first session session' : SessionId}
    {l : List (Request × Delivery)} {lost lost' : Bool} (hs : Standing s ttl first l session lost)
    (hs' : Standing s ttl first l session' lost') : session = session' ∧ lost = lost' := by
  induction l generalizing session session' lost lost' with
  | nil =>
    cases hs
    cases hs'
    exact ⟨rfl, rfl⟩
  | cons x l ih =>
    obtain ⟨before, wasLost, hb, hcases⟩ := hs.exists_before
    obtain ⟨before', wasLost', hb', hcases'⟩ := hs'.exists_before
    obtain ⟨rfl, rfl⟩ := ih hb hb'
    rcases hcases with ⟨hwas, rfl, hlost⟩ | ⟨hwas, rfl, hgrants⟩
    · rcases hcases' with ⟨-, rfl, hlost'⟩ | ⟨hwas', -⟩
      · exact ⟨rfl, Bool.eq_iff_iff.mpr (hlost.trans hlost'.symm)⟩
      · cases hwas.symm.trans hwas'
    · rcases hcases' with ⟨hwas', -⟩ | ⟨-, rfl, hgrants'⟩
      · cases hwas.symm.trans hwas'
      · refine ⟨?_, rfl⟩
        rcases hgrants with hgrants | ⟨rfl, hnone⟩
        · rcases hgrants' with hgrants' | ⟨-, hnone'⟩
          · exact hgrants.unique hgrants'
          · exact absurd hgrants (hnone' _)
        · rcases hgrants' with hgrants' | ⟨rfl, -⟩
          · exact absurd hgrants' (hnone _)
          · rfl

/-- Whatever an agent delivers, and in whatever order the requests of a provider, of those who take
keys and of those who give them back come about: who takes a key has a guard if the agent says so
and none if the agent says that, and an error otherwise. The provider has the session that its
renewals have left it with, and no other: that which took the place of one the agent did not know.
Whatever is delivered to a renewal, the next one begins, until the provider is closed or dropped.
And what is given back goes to where it was taken, with the session that took it. -/
theorem Run.follows_replies (hs : s.client.Sends) (r : Run s { provider := p } h d) :
    (∀ g q δ result, .decided g q δ result ∈ h → Decides s g q δ result) ∧
    (∀ e ∈ d.attempts, ∀ δ, ∃ q result d', Step s d (.decided e.guard q δ result) d') ∧
    (∃ lost, Standing s p.ttl p.session (renewals h) d.provider.session lost ∧
      ∀ session lost', Standing s p.ttl p.session (renewals h) session lost' →
        session = d.provider.session) ∧
    (d.stage ≠ .gone → ∀ δ₁ δ₂, ∃ now l d',
      Run s { provider := p } (.begun now :: (l ++ h)) d' ∧
        (l = [] ∨ (∃ q, l = [.renewed q δ₁]) ∨ ∃ q q', l = [.renewed q' δ₂, .renewed q δ₁])) ∧
    (d.stage = .gone → .closed ∈ h ∨ .dropped ∈ h) ∧
    (∀ later g q δ earlier, h = later ++ .released g q δ :: earlier →
      q = keyMessage s.client "release" g ∧
        ∃ δ', .decided g (keyMessage s.client "acquire" g) δ' (.ok (some g)) ∈ earlier) ∧
    ∀ e ∈ d.returns, ∀ δ, ∃ q d', Step s d (.released e.guard q δ) d' := by
  have hrenews := r.renews hs
  have hattempts := r.attempts hs
  have hguards := r.guards hs
  obtain ⟨lost, hstanding, hleft⟩ := hrenews.standing
  refine ⟨hattempts.decides, hattempts.exists_decided hs, ⟨lost, hstanding, ?_⟩, ?_, hrenews.gone,
    ?_, hguards.exists_released hs⟩
  · intro session lost' hstanding'
    exact (hstanding'.unique hstanding).1
  · intro ho δ₁ δ₂
    exact r.begins ho (hleft ho) δ₁ δ₂
  · intro later g q δ earlier hsplit
    obtain ⟨hq, q', δ', hmem⟩ := hguards.released later g q δ earlier hsplit
    refine ⟨hq, δ', ?_⟩
    have hmem' : .decided g q' δ' (.ok (some g)) ∈ h := by
      rw [hsplit]
      exact List.mem_append_right _ (List.mem_cons_of_mem _ hmem)
    rwa [(hattempts.decides g q' δ' _ hmem').request_eq] at hmem

theorem follows_replies_of_replacement : ∃ (h : List Incident) (d : Dealings) (q : Request),
    Client.onThisHost.Sends ∧
    Run { client := .onThisHost, sessionName := "movie" }
      { provider := .holding 0 LockProvider.defaultTtl ⟨"a"⟩ } h d ∧
    d.provider.session = ⟨"b"⟩ ∧
    .released ⟨"job", ⟨"a"⟩⟩ q .silent ∈ h ∧
    q = keyMessage .onThisHost "release" ⟨"job", ⟨"a"⟩⟩ := by
  have hyes : Says (.replied (replyOf "true")) (.bool true) :=
    ⟨_, rfl, rfl, decode_replyOf (by cbv)⟩
  have hunknown : IsUnknown (.replied ⟨⟨404⟩, none, [], .whole⟩) := ⟨_, rfl, rfl⟩
  have hgrants : Grants (.replied (replyOf (Json.render (.table [("ID", .text "b")])))) ⟨"b"⟩ :=
    ⟨_, ⟨_, rfl, rfl, decode_replyOf (by cbv)⟩, sessionOfDocument_eq_some_iff.mp rfl⟩
  have hs := Client.sends_onThisHost
  have r : Run { client := .onThisHost, sessionName := "movie" }
    { provider := .holding 0 LockProvider.defaultTtl ⟨"a"⟩ } [] _ := .start
  obtain ⟨q, r⟩ := r.takes hs rfl "job" hyes
  obtain ⟨now, q₁, q₂, r⟩ := r.gets_session hs (by simp) rfl hunknown hgrants
  obtain ⟨q₃, r⟩ := r.gives_back hs List.mem_cons_self .silent
  obtain ⟨-, -, -, -, -, hreleased, -⟩ := r.follows_replies hs
  exact ⟨_, _, q₃, hs, r, rfl, List.mem_cons_self, (hreleased [] _ _ _ _ rfl).1⟩

end Dealings

end Rollcall.Consul
