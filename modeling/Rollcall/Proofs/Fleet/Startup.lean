import Rollcall.Fleet.App
import Rollcall.Proofs.Fleet.Departure

/-!
# Apps that fail to start

An app fails to start because its instance cannot be registered, or because its lock cannot be
opened after that. In the second case it takes back what it has done: its heartbeat is told to stop,
and when it has ended, which may be many reports later, the instance is deregistered. Other members
go on between any two of these steps.
-/

namespace Rollcall

namespace Fleet

variable {f g : Fleet (Faulty Cluster)} {h : List Scene} {s : Scene}

theorem Course.lives_or_created (c : Course f h g) (hs : f.backend.behind.Sound) {id : SessionId}
    (hl : g.Lives id) :
    f.Lives id ∨ ∃ s ∈ h, ∃ ttl, .called (.createSession ttl) (.ok id) ∈ s.happenings := by
  suffices hall : g.backend.behind.Sound ∧ (g.Lives id → f.Lives id ∨
      ∃ s ∈ h, ∃ ttl, .called (.createSession ttl) (.ok id) ∈ s.happenings) from hall.2 hl
  clear hl
  induction c with
  | stay => exact ⟨hs, .inl⟩
  | @go h g c m hm ih =>
    obtain ⟨hsound, hbefore⟩ := ih
    refine ⟨Scene.sound_after (s := ⟨g, m⟩) hsound, ?_⟩
    rintro ⟨v, hv, hle⟩
    have hearlier : g.Lives id → f.Lives id ∨ ∃ s ∈ (⟨g, m⟩ :: h : List Scene), ∃ ttl,
        .called (.createSession ttl) (.ok id) ∈ s.happenings := fun hl =>
      (hbefore hl).imp_right fun ⟨s, hs, hc⟩ => ⟨s, List.mem_cons_of_mem _ hs, hc⟩
    rcases Scene.session_of (s := ⟨g, m⟩) hsound hv with ⟨ttl, hc, -⟩ | ⟨w, hw, hcase⟩
    · exact .inr ⟨_, List.mem_cons_self, ttl, hc⟩
    · refine hearlier ⟨w, hw, ?_⟩
      rcases hcase with rfl | ⟨-, halive, -⟩
      · exact (Scene.now_le (s := ⟨g, m⟩) hm).trans hle
      · exact halive

theorem IsLatestSign.of_reports {h h' : List Scene} {id : InstanceId} {service : String}
    {since last : Nat} (hl : IsLatestSign h id service since last) (hsub : ∀ s ∈ h', s ∈ h)
    (hreports : ∀ s ∈ h, .called (.report id service) (.ok ()) ∈ s.happenings → s ∈ h') :
    IsLatestSign h' id service since last where
  is_sign := hl.is_sign.imp_right fun ⟨s, hs, hnow, hr⟩ => ⟨s, hreports s hs hr, hnow, hr⟩
  since_le := hl.since_le
  latest := fun s hs => hl.latest s (hsub s hs)

end Fleet

namespace Node

theorem start_cases (f : Fleet (Faulty Cluster)) (id : InstanceId) (service address : String)
    (interval : Nat) :
    (∃ e, (f.perform (.register id service address)).1 = .error e ∧
      Node.start f id service address interval =
        (.error e, (f.perform (.register id service address)).2)) ∨
    (f.perform (.register id service address)).1 = .ok () ∧
      Node.start f id service address interval = (.ok ⟨id, service, f.admitted⟩,
        ((f.perform (.register id service address)).2.startHeartbeat id service interval
          {}).2) := by
  unfold Node.start
  rcases hr : f.perform (.register id service address) with ⟨e | u, f'⟩
  · exact .inl ⟨e, rfl, rfl⟩
  · have hadmitted : f'.admitted = f.admitted :=
      congrArg (fun r => Fleet.admitted r.2) hr.symm
    exact .inr ⟨rfl, by rw [← hadmitted]; rfl⟩

end Node

namespace App

open Fleet

variable {config : Config} {id : InstanceId} {f g : Fleet (Faulty Cluster)}

abbrev registration (config : Config) (id : InstanceId) : Call :=
  .register id config.node.serviceName config.node.advertiseAddress

abbrev deregistration (config : Config) (id : InstanceId) : Call :=
  .deregister id config.node.serviceName

/-- How an app fails to start: the error, the scenes that it makes itself, the members that it has
started, the scenes of all members between its own, and the fleet in the end. -/
inductive Fails (config : Config) (id : InstanceId) (f : Fleet (Faulty Cluster)) :
    Error → List Scene → List Member → List Scene → Fleet (Faulty Cluster) → Prop
  | unregistered {e} (refused : (f.perform (registration config id)).1 = .error e) :
      Fails config id f e [⟨f, .call (registration config id)⟩] [] []
        (f.perform (registration config id)).2
  | unlocked {e f₁ f₂ f₃ left h₁ h₂ h₃}
      (registered : (f.perform (registration config id)).1 = .ok ())
      (started : f₁ = (f.perform (registration config id)).2)
      (c₁ : Course (f₁.startHeartbeat id config.node.serviceName config.heartbeatInterval {}).2
        h₁ f₂)
      (enabled : config.lock.enabled = true)
      (refused : (f₂.openLock config.sessionTtl).1 = .error e)
      (c₂ : Course (f₂.openLock config.sessionTtl).2 h₂ f₃)
      (departs : Node.Departs ⟨id, config.node.serviceName, f.admitted⟩ f₃ h₃ left) :
      Fails config id f e
        [⟨left, .call (deregistration config id)⟩,
          ⟨f₃, .signalHeartbeat f.admitted (·.send true)⟩,
          ⟨f₂, .openLock config.sessionTtl⟩,
          ⟨f₁, .startHeartbeat id config.node.serviceName config.heartbeatInterval {}⟩,
          ⟨f, .call (registration config id)⟩]
        [.heartbeat f.admitted] (h₃ ++ h₂ ++ h₁)
        (left.perform (deregistration config id)).2

variable {e : Error} {own aside h₀ h' : List Scene} {members : List Member} {registry : Registry}
  {g' : Fleet (Faulty Cluster)} {service : String}

theorem openLock_of_error {ttl : Nat} (he : (f.openLock ttl).1 = .error e) :
    (f.perform (.createSession ttl)).1 = .error e ∧
      (f.openLock ttl).2 = (f.perform (.createSession ttl)).2 := by
  rw [openLock_fst] at he
  rcases openLock_cases f ttl with ⟨e', herror, hafter⟩ | ⟨sid, hok, -⟩
  · rw [herror] at he
    cases he
    exact ⟨herror, hafter⟩
  · rw [hok] at he
    cases he

/-- The calls that the app makes itself: the first one fails, or the second one does and a third one
is to make up for the first. -/
theorem Fails.past_own (hf : Fails config id f e own members aside g) :
    past own = [.called (registration config id) (.error e)] ∨
      ∃ r, past own = [.called (deregistration config id) r,
        .called (.createSession config.sessionTtl) (.error e),
        .called (registration config id) (.ok ())] := by
  cases hf with
  | unregistered refused =>
    refine .inl ?_
    rw [past_cons, Scene.happenings_of_call rfl, refused]
    rfl
  | @unlocked f₁ f₂ f₃ left _ _ _ registered started c₁ enabled refused c₂ departs =>
    refine .inr ⟨(left.perform (deregistration config id)).1, ?_⟩
    rw [past_cons, past_cons, past_cons, past_cons, past_cons, Scene.happenings_of_call rfl,
      Scene.happenings_of_signalHeartbeat rfl, Scene.happenings_of_open rfl,
      Scene.happenings_of_startHeartbeat rfl, Scene.happenings_of_call rfl]
    show [_] ++ ([] ++ ([.called _ (f₂.perform (.createSession config.sessionTtl)).1] ++ ([] ++
      ([.called _ (f.perform (registration config id)).1] ++ past [])))) = _
    rw [(openLock_of_error refused).1, registered]
    rfl

/-- The app adds no lock provider and no processor, and changes no heartbeat but its own. -/
theorem Fails.members_of_own (hf : Fails config id f e own members aside g) {s : Scene}
    (hs : s ∈ own) : s.after.locks = s.before.locks ∧ s.after.workers = s.before.workers ∧
      ∀ n, s.after.heartbeats.get? n ≠ s.before.heartbeats.get? n → .heartbeat n ∈ members := by
  cases hf with
  | unregistered refused =>
    rw [List.mem_singleton] at hs
    subst hs
    exact ⟨rfl, rfl, fun n hn => absurd rfl hn⟩
  | @unlocked f₁ f₂ f₃ left _ _ _ registered started c₁ enabled refused c₂ departs =>
    have hput : ∀ {k : Nat} {beat : Heartbeat} {t : Table Nat Heartbeat} {n : Nat},
        (t.put k beat).get? n ≠ t.get? n → n = k := by
      intro k beat t n hn
      by_contra hne
      exact hn ((Table.get?_put _ _ _ _).trans (if_neg hne))
    simp only [List.mem_cons, List.not_mem_nil, or_false] at hs ⊢
    rcases hs with rfl | rfl | rfl | rfl | rfl
    · exact ⟨rfl, rfl, fun n hn => absurd rfl hn⟩
    · simp only [Scene.after, Fleet.after, signalHeartbeat]
      split
      · exact ⟨rfl, rfl, fun n hn => absurd rfl hn⟩
      · exact ⟨rfl, rfl, fun n hn => congrArg Member.heartbeat (hput hn)⟩
    · simp only [Scene.after, Fleet.after, (openLock_of_error refused).2]
      exact ⟨rfl, rfl, fun n hn => absurd rfl hn⟩
    · subst started
      exact ⟨rfl, rfl, fun n hn => congrArg Member.heartbeat (hput hn)⟩
    · exact ⟨rfl, rfl, fun n hn => absurd rfl hn⟩

theorem reports_startHeartbeat (f : Fleet (Faulty Cluster)) (id : InstanceId) (service : String)
    (period : Nat) (signal : Signal) :
    (f.startHeartbeat id service period signal).2.Reports f.admitted id service :=
  ⟨Nat.lt_succ_self _, _, (Table.get?_put _ _ _ _).trans (if_pos rfl), rfl⟩

theorem course_between {f₁ f₂ f₃ left : Fleet (Faulty Cluster)} {h₁ h₂ h₃ : List Scene} {ttl : Nat}
    {node : Node} (c₁ : Course f₁ h₁ f₂) (c₂ : Course (f₂.openLock ttl).2 h₂ f₃)
    (departs : node.Departs f₃ h₃ left) :
    Course f₁ (h₃ ++ [⟨f₃, .signalHeartbeat node.heartbeat (·.send true)⟩] ++
      (h₂ ++ ⟨f₂, .openLock ttl⟩ :: h₁)) left :=
  ((c₁.go (.openLock ttl) trivial).trans c₂).trans departs.whole

theorem mem_aside_of_touches {f₂ f₃ : Fleet (Faulty Cluster)} {h₁ h₂ h₃ : List Scene} {n ttl : Nat}
    {s : Scene} (hs : s ∈ h₃ ++ [⟨f₃, .signalHeartbeat n (·.send true)⟩] ++
      (h₂ ++ ⟨f₂, .openLock ttl⟩ :: h₁)) {x : Happening} (hx : x ∈ s.happenings)
    (htouch : x.Touches id service) : s ∈ h₃ ++ h₂ ++ h₁ := by
  simp only [List.mem_append, List.mem_cons, List.not_mem_nil, or_false] at hs ⊢
  rcases hs with (hs | rfl) | hs | rfl | hs
  · exact .inl (.inl hs)
  · exact absurd htouch (Scene.not_touches
      (s := ⟨f₃, .signalHeartbeat n (·.send true)⟩) nofun nofun x hx)
  · exact .inl (.inr hs)
  · exact absurd htouch (Scene.not_touches (s := ⟨f₂, .openLock ttl⟩) nofun nofun x hx)
  · exact .inr hs

theorem leavesRecord_between {f₂ f₃ : Fleet (Faulty Cluster)} {h₁ h₂ h₃ : List Scene} {n ttl : Nat}
    (hx : LeavesRecord (h₃ ++ h₂ ++ h₁) members id service) :
    LeavesRecord (h₃ ++ [⟨f₃, .signalHeartbeat n (·.send true)⟩] ++
      (h₂ ++ ⟨f₂, .openLock ttl⟩ :: h₁)) members id service :=
  fun s hs ha x hxs htouch => hx s (mem_aside_of_touches hs hxs htouch) ha x hxs htouch

theorem Fails.course (hf : Fails config id f e own members aside g) :
    ∃ h, Course f h g ∧ ∀ s ∈ h, s ∈ own ∨ s ∈ aside := by
  have c₀ := (Course.stay (f := f)).go (.call (registration config id)) trivial
  cases hf with
  | unregistered refused => exact ⟨_, c₀, fun s hs => .inl hs⟩
  | unlocked registered started c₁ enabled refused c₂ departs =>
    subst started
    have c := c₀.go (.startHeartbeat id config.node.serviceName config.heartbeatInterval {}) trivial
    refine ⟨_, (c.trans (course_between c₁ c₂ departs)).go
      (.call (deregistration config id)) trivial, fun s hs => ?_⟩
    simp only [List.mem_cons, List.mem_append, List.not_mem_nil, or_false] at hs ⊢
    tauto

theorem Fails.report_of_aside (hf : Fails config id f e own members aside g) {s : Scene}
    (hs : s ∈ aside) {m : Member} (hm : m ∈ members) (ha : s.actor? = some m) {x : Happening}
    (hx : x ∈ s.happenings) : ∃ r, x = .called (.report id config.node.serviceName) r := by
  cases hf with
  | unregistered refused => cases hm
  | unlocked registered started c₁ enabled refused c₂ departs =>
    subst started
    rw [List.mem_singleton] at hm
    subst hm
    have hr := reports_startHeartbeat (f.perform (registration config id)).2 id
      config.node.serviceName config.heartbeatInterval {}
    obtain ⟨-, earlier, -, c, -⟩ := (course_between c₁ c₂ departs).exists_of_mem (s := s) (by
      simp only [List.mem_append, List.mem_cons] at hs ⊢
      tauto)
    exact (c.reports hr).happenings ha hx

theorem Fails.isOver (hf : Fails config id f e own members aside g) :
    ∀ m ∈ members, g.IsOver m := by
  cases hf with
  | unregistered refused => exact nofun
  | unlocked registered started c₁ enabled refused c₂ departs =>
    subst started
    intro m hm
    obtain rfl := List.mem_singleton.mp hm
    have hr := (c₁.go (.openLock config.sessionTtl) trivial).trans c₂ |>.reports
      (reports_startHeartbeat (f.perform (registration config id)).2 id
        config.node.serviceName config.heartbeatInterval {})
    exact departs.isOver_after hr

/-- A session that is alive in the end was alive before, or others have created it. -/
theorem Fails.session (hf : Fails config id f e own members aside g)
    (hs : f.backend.behind.Sound) {sid : SessionId} (hl : g.Lives sid) :
    f.Lives sid ∨ ∃ s ∈ aside, (∀ m ∈ members, s.actor? ≠ some m) ∧
      ∃ ttl, .called (.createSession ttl) (.ok sid) ∈ s.happenings := by
  obtain ⟨h, c, hall⟩ := hf.course
  refine (c.lives_or_created hs hl).imp_right ?_
  rintro ⟨s, hmem, ttl, hc⟩
  rcases hall s hmem with hown | haside
  · exfalso
    have hpast : .called (.createSession ttl) (.ok sid) ∈ past own :=
      List.mem_flatMap.mpr ⟨s, hown, hc⟩
    rcases hf.past_own with heq | ⟨r, heq⟩
    · rw [heq, List.mem_singleton] at hpast
      cases hpast
    · simp only [heq, List.mem_cons, List.not_mem_nil, or_false] at hpast
      rcases hpast with heq | heq | heq <;> cases heq
  · refine ⟨s, haside, fun m hm ha => ?_, ttl, hc⟩
    obtain ⟨r, heq⟩ := hf.report_of_aside haside hm ha hc
    cases heq

theorem Fails.record?_of_ne (hf : Fails config id f e own members aside g) {other : InstanceId}
    (hne : (other, service) ≠ (id, config.node.serviceName))
    (hx : LeavesRecord aside members other service) :
    g.backend.record? service other = f.backend.record? service other := by
  obtain ⟨h, c, hall⟩ := hf.course
  refine c.record?_eq fun s hmem x hxs htouch => ?_
  rcases hall s hmem with hown | haside
  · have hpast : x ∈ past own := List.mem_flatMap.mpr ⟨s, hown, hxs⟩
    rcases hf.past_own with heq | ⟨r, heq⟩
    · rw [heq, List.mem_singleton] at hpast
      subst hpast
      rcases htouch with ⟨_, heq⟩ | heq | heq <;> cases heq
    · simp only [heq, List.mem_cons, List.not_mem_nil, or_false] at hpast
      rcases hpast with rfl | rfl | rfl
      · rcases htouch with ⟨_, heq⟩ | heq | heq <;> cases heq
        exact hne rfl
      · rcases htouch with ⟨_, heq⟩ | heq | heq <;> cases heq
      · rcases htouch with ⟨_, heq⟩ | heq | heq <;> cases heq
        exact hne rfl
  · by_cases ha : ∃ m ∈ members, s.actor? = some m
    · obtain ⟨m, hm, ha⟩ := ha
      obtain ⟨r, rfl⟩ := hf.report_of_aside haside hm ha hxs
      rcases htouch with ⟨_, heq⟩ | heq | heq <;> cases heq
      exact hne rfl
    · push Not at ha
      exact hx s haside ha x hxs htouch

/-- The record of the instance is gone after all, or tells the latest sign of life until it is too
old. -/
theorem Fails.record?_after (c₀ : Course (Fleet.start registry) h₀ f)
    (hu : registry.records.Unique)
    (hfresh : f.backend.record? config.node.serviceName id = none)
    (hf : Fails config id f e own members aside g)
    (hx : LeavesRecord aside members id config.node.serviceName) (c' : Course g h' g')
    (hx' : LeavesRecord h' members id config.node.serviceName) :
    g'.backend.record? config.node.serviceName id = none ∨
      (∃ e', .called (deregistration config id) (.error e') ∈ past own) ∧
        ∃ last, g'.backend.record? config.node.serviceName id =
            some ⟨config.node.advertiseAddress, last⟩ ∧
          IsLatestSign aside id config.node.serviceName f.now last ∧
          (last + registry.window < g'.now →
            g'.IsAloneAt id config.node.serviceName config.node.advertiseAddress →
              ¬ g'.Lists config.node.serviceName config.node.advertiseAddress) := by
  have hover := hf.isOver
  have c := c₀.go (.call (registration config id)) trivial
  cases hf with
  | unregistered refused =>
    refine .inl ?_
    rw [hx'.record?_eq_of_over c hover c', ← hfresh]
    have hcall : (Backend.perform f.backend f.now (registration config id)).1 = .error e := refused
    refine Faulty.record?_perform ?_
    rw [hcall]
    rintro (⟨_, heq⟩ | heq | heq) <;> cases heq
  | @unlocked f₁ f₂ f₃ left h₁ h₂ h₃ registered started c₁ enabled refused c₂ departs =>
    subst started
    have between := course_between c₁ c₂ departs
    have hr := reports_startHeartbeat (f.perform (registration config id)).2 id
      config.node.serviceName config.heartbeatInterval {}
    have hrecord : (f.perform (registration config id)).2.backend.record? config.node.serviceName
        id = some ⟨config.node.advertiseAddress, f.now⟩ :=
      Faulty.record?_of_registered registered
    obtain ⟨last, hlast, -, hlatest⟩ := between.exists_latestSign hrecord
      ((leavesRecord_between hx).eq_report between hr)
    have whole := (c.go (.startHeartbeat id config.node.serviceName config.heartbeatInterval {})
      trivial).trans between
    rcases record?_after_deregister whole hu hlast hover c' hx' with ⟨-, hgone⟩ |
      ⟨⟨e', herror⟩, hkept, hold⟩
    · exact .inl hgone
    · refine .inr ⟨⟨e', ?_⟩, last, hkept, hlatest.of_reports (fun s hs => ?_) fun s hs hreport =>
        mem_aside_of_touches hs hreport (.inr (.inr rfl)), hold⟩
      · rw [past_cons, Scene.happenings_of_call rfl]
        exact List.mem_append_left _ (List.mem_singleton.mpr (congrArg _ herror.symm))
      · simp only [List.mem_append, List.mem_cons] at hs ⊢
        tauto

/-- An app that does not start fails in one of these ways, and gives turns to its fleet only. -/
theorem exists_fails_of_start (hp : Paced f) {random : RandomSource}
    (hstart : App.start f config id random = (.error e, g)) :
    ∃ own members aside, Fails config id f e own members aside g ∧
      ∀ s ∈ aside, ∃ m, s.move = .wake m := by
  unfold App.start at hstart
  rcases Node.start_cases f id config.node.serviceName config.node.advertiseAddress
    config.heartbeatInterval with ⟨e', he, heq⟩ | ⟨hok, heq⟩
  · rw [heq] at hstart
    cases hstart
    exact ⟨_, _, _, .unregistered he, nofun⟩
  · rw [heq] at hstart
    simp only at hstart
    split_ifs at hstart with henabled
    · obtain ⟨f₁, hf₁⟩ : ∃ f₁, f₁ = ((f.perform (registration config id)).2.startHeartbeat id
        config.node.serviceName config.heartbeatInterval {}).2 := ⟨_, rfl⟩
      have hp₁ : Paced f₁ := hf₁ ▸ Paced.after (s := ⟨_, .startHeartbeat id
        config.node.serviceName config.heartbeatInterval {}⟩)
        (Paced.after (s := ⟨f, .call (registration config id)⟩) hp)
      have hr : f₁.Reports f.admitted id config.node.serviceName :=
        hf₁ ▸ reports_startHeartbeat (f.perform (registration config id)).2 id _ _ _
      rw [← hf₁] at hstart
      rcases hopen : f₁.openLock config.sessionTtl with ⟨e' | lock, f₂⟩
      · rw [hopen] at hstart
        cases hstart
        obtain rfl : f₂ = (f₁.openLock config.sessionTtl).2 := by rw [hopen]
        have hrefused : (f₁.openLock config.sessionTtl).1 = .error e := by rw [hopen]
        obtain ⟨h, left, hdeparts, hwakes, hshut⟩ := @Node.exists_departs
          ⟨id, config.node.serviceName, f.admitted⟩ _
          (Paced.after (s := ⟨f₁, .openLock config.sessionTtl⟩) hp₁)
          (Reports.after (s := ⟨f₁, .openLock config.sessionTtl⟩) hr)
        subst hf₁
        have hfails : Fails config id f e _ _ _ (left.perform (deregistration config id)).2 :=
          .unlocked hok rfl .stay henabled hrefused .stay hdeparts
        rw [show (left.perform (deregistration config id)).2 = _ from hshut.symm] at hfails
        exact ⟨_, _, _, hfails, fun s hs => hwakes s (by simpa using hs)⟩
      · rw [hopen] at hstart
        cases hstart
    · cases hstart

/-- An app that does not start gives the error of its registration, or else of its first session. It
has added nothing to the fleet but a heartbeat, which makes no call any more; no session is its own,
and no record of another instance has changed. The record of its own instance, new as it was, is
gone again unless it could not be deregistered. In that case it is reported no more, and one
liveness window after its latest sign of life it is not resolved. -/
theorem start_all_or_nothing (c₀ : Course (Fleet.start registry) h₀ f)
    (hu : registry.records.Unique)
    (hfresh : f.backend.record? config.node.serviceName id = none) :
    (∀ random e g, App.start f config id random = (.error e, g) →
      ∃ own members aside, Fails config id f e own members aside g ∧
        ∀ s ∈ aside, ∃ m, s.move = .wake m) ∧
    ∀ e own members aside g, Fails config id f e own members aside g →
      (.called (registration config id) (.error e) ∈ past own ∨
        .called (.createSession config.sessionTtl) (.error e) ∈ past own) ∧
      (∀ s ∈ own, s.after.locks = s.before.locks ∧ s.after.workers = s.before.workers ∧
        ∀ n, s.after.heartbeats.get? n ≠ s.before.heartbeats.get? n → .heartbeat n ∈ members) ∧
      (∀ sid, g.Lives sid → f.Lives sid ∨ ∃ s ∈ aside, (∀ m ∈ members, s.actor? ≠ some m) ∧
        ∃ ttl, .called (.createSession ttl) (.ok sid) ∈ s.happenings) ∧
      (∀ other service, (other, service) ≠ (id, config.node.serviceName) →
        LeavesRecord aside members other service →
          g.backend.record? service other = f.backend.record? service other) ∧
      ∀ h' g', Course g h' g' →
        (∀ m ∈ members, deeds h' m = []) ∧
        (LeavesRecord (h' ++ aside) members id config.node.serviceName →
          g'.backend.record? config.node.serviceName id = none ∨
          (∃ e', .called (deregistration config id) (.error e') ∈ past own) ∧
            ∃ last, g'.backend.record? config.node.serviceName id =
                some ⟨config.node.advertiseAddress, last⟩ ∧
              IsLatestSign aside id config.node.serviceName f.now last ∧
              (last + registry.window < g'.now →
                g'.IsAloneAt id config.node.serviceName config.node.advertiseAddress →
                  ¬ g'.Lists config.node.serviceName config.node.advertiseAddress)) := by
  refine ⟨fun random e g => exists_fails_of_start c₀.paced, fun e own members aside g hf => ?_⟩
  obtain ⟨h, c, -⟩ := hf.course
  refine ⟨?_, fun s hs => hf.members_of_own hs, fun sid hl => hf.session c₀.ledger.sound hl,
    fun other service hne hx => hf.record?_of_ne hne hx, fun h' g' c' =>
    ⟨fun m hm => ((c₀.trans c).silent (hf.isOver m hm) c').2, fun hx => ?_⟩⟩
  · rcases hf.past_own with heq | ⟨r, heq⟩
    · exact .inl (heq ▸ List.mem_singleton_self _)
    · exact .inr (heq ▸ List.mem_cons_of_mem _ List.mem_cons_self)
  · obtain ⟨hlater, haside⟩ := leavesRecord_append.mp hx
    exact hf.record?_after c₀ hu hfresh haside c' hlater

def lockedApp : Config := { discovery := { backend := .memory }, lock := { enabled := true } }

def unsteady : Fleet (Faulty Cluster) :=
  (Fleet.start .standard).afterAll [.inject ⟨.deregister, .unavailable "registry", 1⟩,
    .inject ⟨.createSession, .unavailable "store", 1⟩]

def enlisted : Fleet (Faulty Cluster) :=
  ((unsteady.perform (registration lockedApp ⟨"movie-1"⟩)).2.startHeartbeat ⟨"movie-1"⟩ "movie"
    (Duration.ofSecs 1) {}).2

def firstSecond : List Move := [.pass (Duration.ofSecs 1), .wake (.heartbeat 0)]

def takingBack : Fleet (Faulty Cluster) :=
  ((enlisted.afterAll firstSecond).openLock lockedApp.sessionTtl).2.signalHeartbeat 0 (·.send true)

def givenUp : Fleet (Faulty Cluster) :=
  ((takingBack.afterAll [.wake (.heartbeat 0)]).perform
    (deregistration lockedApp ⟨"movie-1"⟩)).2

/-- The app gives the error of the lock store. Its record stays behind, and is resolved no longer
than five seconds after the report. -/
theorem grows_old_after_failed_start :
    (∃ own aside, Fails lockedApp ⟨"movie-1"⟩ unsteady (.unavailable "store") own [.heartbeat 0]
      aside givenUp) ∧
    (∀ h' g', Course givenUp h' g' → deeds h' (.heartbeat 0) = []) ∧
    givenUp.backend.record? "movie" ⟨"movie-1"⟩ = some ⟨"localhost:8083", 0⟩ ∧
    ¬ (givenUp.afterAll [.pass (Duration.ofMillis 5001)]).Lists "movie" "localhost:8083" := by
  have c₀ : Course (Fleet.start .standard) _ unsteady := course_scenes _ _ (by decide +kernel)
  have c₁ := course_scenes enlisted firstSecond (by decide +kernel)
  have c₃ := course_scenes takingBack [.wake (.heartbeat 0)] (by decide +kernel)
  have c' := course_scenes givenUp [.pass (Duration.ofMillis 5001)] (by decide +kernel)
  have hf : Fails lockedApp ⟨"movie-1"⟩ unsteady (.unavailable "store") _ [.heartbeat 0] _
      givenUp :=
    .unlocked rfl rfl c₁ rfl rfl .stay ⟨c₃, by decide +kernel⟩
  have hquiet : ∀ s ∈ givenUp.scenes [.pass (Duration.ofMillis 5001)] ++
      (takingBack.scenes [.wake (.heartbeat 0)] ++ [] ++ enlisted.scenes firstSecond),
      s.actor? ≠ some (.heartbeat 0) → s.happenings = [] := by
    decide +kernel
  have hx : LeavesRecord (givenUp.scenes [.pass (Duration.ofMillis 5001)] ++
      (takingBack.scenes [.wake (.heartbeat 0)] ++ [] ++ enlisted.scenes firstSecond))
      [.heartbeat 0] ⟨"movie-1"⟩ "movie" := by
    intro s hs ha x hx
    rw [hquiet s hs (ha _ List.mem_cons_self)] at hx
    cases hx
  have hrecords :
      (givenUp.afterAll [.pass (Duration.ofMillis 5001)]).backend.behind.registry.records =
        ⟨[(("movie", ⟨"movie-1"⟩), ⟨"localhost:8083", 0⟩)]⟩ := rfl
  obtain ⟨-, -, -, -, hlater⟩ := (start_all_or_nothing c₀ Table.unique_empty rfl).2 _ _ _ _ _ hf
  refine ⟨⟨_, _, hf⟩, fun h' g' c' => (hlater h' g' c').1 _ List.mem_cons_self, rfl, ?_⟩
  rcases (hlater _ _ c').2 hx with hgone | ⟨-, last, hkept, -, hold⟩
  · cases hgone
  · cases hkept
    refine hold (by decide +kernel) fun id' record hr _ => ?_
    have hmem := Table.mem_entries_of_get? hr
    simp only [hrecords, List.mem_singleton, Prod.mk.injEq] at hmem
    exact hmem.1.2

end App

end Rollcall
