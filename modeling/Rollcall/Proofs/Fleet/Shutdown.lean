import Rollcall.Proofs.Fleet.Joining
import Rollcall.Proofs.Fleet.Running

/-!
# Apps that are shut down

An app that is shut down tells its processor to stop and waits until it has, closes its lock
provider, and then lets its node depart. Other members go on between any two of these steps. Each
step is made when the one before it has nothing more to do, so that nobody is left who could make up
again what has been undone; and what could not be undone is not kept up any more, and lapses.
-/

namespace Rollcall

namespace App

open Fleet

variable {config : Config} {id : InstanceId} {random : RandomSource} {app : App}
  {f f₀ g g' : Fleet (Faulty Cluster)} {h h' h₀ h₁ : List Scene} {registry : Registry} {ttl : Nat}
  {m : Member} {worker lock : Nat}

def stopProcessor (app : App) (f : Fleet (Faulty Cluster)) : Fleet (Faulty Cluster) :=
  match app.processing with
  | some (worker, _) => f.signalWorker worker (·.send true)
  | none => f

def closeLock (app : App) (f : Fleet (Faulty Cluster)) : Fleet (Faulty Cluster) :=
  match app.processing with
  | some (_, lock) => (f.closeLock lock).2
  | none => f

/-- The way of an app out of the fleet, up to where all that is left is to deregister. -/
structure Retreat (app : App) (f : Fleet (Faulty Cluster)) where
  /-- The app waits until its processor has stopped. -/
  stopping : List Scene
  joined : Fleet (Faulty Cluster)
  stops : Course (app.stopProcessor f) stopping joined
  joins : app.isProcessing joined = false
  closing : List Scene
  closed : Fleet (Faulty Cluster)
  closes : Course (app.closeLock joined) closing closed
  /-- The node waits until its heartbeat has ended. -/
  leaving : List Scene
  left : Fleet (Faulty Cluster)
  leaves : app.node.Departs closed leaving left

/-- What the members do between the steps of the app itself. -/
def Retreat.aside (r : app.Retreat f) : List Scene := r.leaving ++ r.closing ++ r.stopping

def Retreat.final (r : app.Retreat f) : Fleet (Faulty Cluster) :=
  (r.left.perform (.deregister app.node.id app.node.service)).2

theorem exists_course_stopProcessor (app : App) (f : Fleet (Faulty Cluster)) :
    ∃ own, Course f own (app.stopProcessor f) ∧
      ∀ s ∈ own, ∃ n change, s.move = .signalWorker n change := by
  unfold stopProcessor
  rcases app.processing with _ | ⟨worker, lock⟩
  · exact ⟨[], .stay, nofun⟩
  · refine ⟨_, Course.stay.go (.signalWorker worker (·.send true)) trivial, fun s hs => ?_⟩
    exact ⟨worker, _, by rw [List.mem_singleton.mp hs]⟩

theorem exists_course_closeLock (app : App) (f : Fleet (Faulty Cluster)) :
    ∃ own, Course f own (app.closeLock f) ∧ ∀ s ∈ own, ∃ n, s.move = .closeLock n := by
  unfold closeLock
  rcases app.processing with _ | ⟨worker, lock⟩
  · exact ⟨[], .stay, nofun⟩
  · exact ⟨_, Course.stay.go (.closeLock lock) trivial, fun s hs =>
      ⟨lock, by rw [List.mem_singleton.mp hs]⟩⟩

theorem Retreat.exists_course_joined (r : app.Retreat f) :
    ∃ own, Course f (r.stopping ++ own) r.joined ∧
      ∀ s ∈ own, ∃ n change, s.move = .signalWorker n change := by
  obtain ⟨own, c, hown⟩ := exists_course_stopProcessor app f
  exact ⟨own, c.trans r.stops, hown⟩

theorem Retreat.exists_course_closing (r : app.Retreat f) :
    ∃ h, Course f h (app.closeLock r.joined) := by
  obtain ⟨own, c, -⟩ := r.exists_course_joined
  obtain ⟨own', c', -⟩ := exists_course_closeLock app r.joined
  exact ⟨_, c.trans c'⟩

theorem Retreat.exists_course_left (r : app.Retreat f) :
    ∃ h, Course f h r.left ∧
      ∀ s ∈ h, s ∈ r.aside ∨ (∀ m, s.move ≠ .wake m) ∧ ∀ c, s.move ≠ .call c := by
  obtain ⟨own, c, hown⟩ := r.exists_course_joined
  obtain ⟨own', c', hown'⟩ := exists_course_closeLock app r.joined
  refine ⟨_, ((c.trans c').trans r.closes).trans r.leaves.whole, fun s hs => ?_⟩
  simp only [List.mem_append, List.mem_singleton] at hs
  rcases hs with (hs | rfl) | hs | hs | hs | hs
  · exact .inl (List.mem_append_left _ (List.mem_append_left _ hs))
  · exact .inr ⟨nofun, nofun⟩
  · exact .inl (List.mem_append_left _ (List.mem_append_right _ hs))
  · obtain ⟨n, hm⟩ := hown' s hs
    exact .inr ⟨by rw [hm]; exact nofun, by rw [hm]; exact nofun⟩
  · exact .inl (List.mem_append_right _ hs)
  · obtain ⟨n, change, hm⟩ := hown s hs
    exact .inr ⟨by rw [hm]; exact nofun, by rw [hm]; exact nofun⟩

theorem Retreat.serves_joined (r : app.Retreat f) (c₀ : Course (Fleet.start registry) h₀ f)
    (hs : app.Serves ttl f) (hspared : app.IsSpared r.stopping) : app.Serves ttl r.joined := by
  obtain ⟨own, c, hown⟩ := r.exists_course_joined
  refine hs.course c₀ c fun worker lock happ s hmem => ?_
  rcases List.mem_append.mp hmem with hmem | hmem
  · exact hspared worker lock happ s hmem
  · obtain ⟨n, change, hm⟩ := hown s hmem
    rw [hm]
    trivial

/-- When the lock provider has been closed, there is nothing left to do for the processor or the
provider. -/
theorem Retreat.isOver (r : app.Retreat f) (c₀ : Course (Fleet.start registry) h₀ f)
    (hs : app.Serves ttl f) (hspared : app.IsSpared r.stopping)
    (happ : app.processing = some (worker, lock)) :
    (app.closeLock r.joined).IsOver (.worker worker) ∧
      (app.closeLock r.joined).IsOver (.lock lock) := by
  obtain ⟨own, c, -⟩ := r.exists_course_joined
  have hp := (r.serves_joined c₀ hs hspared).processes worker lock happ
  have hclose : app.closeLock r.joined = (r.joined.closeLock lock).2 := by
    rw [closeLock, happ]
  have hover : r.joined.workerIsOver worker = true := by
    have := r.joins
    rw [isProcessing, happ] at this
    simpa using this
  have hafter := (Course.stay (f := r.joined)).go (.closeLock lock) trivial
  rw [hclose]
  refine ⟨((c₀.trans c).silent (m := .worker worker) ⟨hp.admitted, hover⟩ hafter).1, ?_,
    hp.handles.1.trans_le hafter.admitted_le⟩
  rcases locks_closeLock r.joined lock with ⟨hnone, heq⟩ | heq
  · rw [heq, hnone]
  · rw [heq, Table.get?_erase, if_pos rfl]

/-- The app undoes things in order. A job that the processor is in the middle of comes to its end or
to its deadline, and its lock is released; after that the session is destroyed, and from then on the
processor and the provider make no call. Until the instance is deregistered the members only keep up
what is there. -/
structure Retreat.Unwinds (r : app.Retreat f) (h : List Scene) : Prop where
  keepsUp : app.KeepsUp (r.aside ++ h)
  endsPass : ∀ worker lock guard deadline, app.processing = some (worker, lock) →
    f.IsAtJob worker guard deadline → ∃ s ∈ r.stopping, s.EndsPass worker guard deadline
  destroys : ∀ worker lock, app.processing = some (worker, lock) →
    ∃ sid, r.joined.lockSession lock = some sid ∧
      Scene.happenings ⟨r.joined, .closeLock lock⟩ = [.called (.destroySession sid)
        (r.joined.perform (.destroySession sid)).1]
  silent : ∀ worker lock, app.processing = some (worker, lock) →
    deeds (r.leaving ++ r.closing) (.worker worker) = [] ∧
      deeds (r.leaving ++ r.closing) (.lock lock) = []

theorem Retreat.keepsUp (r : app.Retreat f) (c₀ : Course (Fleet.start registry) h₀ f)
    (hs : app.Serves ttl f) (hspared : app.IsSpared r.stopping) : app.KeepsUp r.aside := by
  obtain ⟨own, c, hown⟩ := r.exists_course_joined
  obtain ⟨own', c', -⟩ := exists_course_closeLock app r.joined
  have hjoined := r.serves_joined c₀ hs hspared
  have hspared' : app.IsSpared (r.stopping ++ own) := by
    intro worker lock happ s hmem
    rcases List.mem_append.mp hmem with hmem | hmem
    · exact hspared worker lock happ s hmem
    · obtain ⟨n, change, hm⟩ := hown s hmem
      rw [hm]
      trivial
  have hbefore := hs.keepsUp c₀ c hspared'
  have hafter := keepsUp_of_isOver ((c₀.trans c).trans c') (c'.reports hjoined.reports)
    (fun worker lock happ => r.isOver c₀ hs hspared happ) (r.closes.trans r.leaves.whole)
  intro s hmem
  rcases List.mem_append.mp hmem with hmem | hmem
  · refine hafter s ?_
    simp only [List.mem_append] at hmem ⊢
    tauto
  · exact hbefore s (List.mem_append_left _ hmem)

theorem Retreat.unwinds (r : app.Retreat f) (c₀ : Course (Fleet.start registry) h₀ f)
    (hs : app.Serves ttl f) (hspared : app.IsSpared r.stopping) (hk : app.KeepsUp h) :
    r.Unwinds h where
  keepsUp := List.forall_mem_append.mpr ⟨r.keepsUp c₀ hs hspared, hk⟩
  endsPass := by
    intro worker lock guard deadline happ hwork
    have hstop : app.stopProcessor f = f.signalWorker worker (·.send true) := by
      rw [stopProcessor, happ]
    have c := c₀.go (.signalWorker worker (·.send true)) trivial
    have hp := hs.processes worker lock happ
    have hspares : Move.Spares worker lock (.signalWorker worker (·.send true)) := trivial
    have hp' := Processes.after (s := ⟨f, .signalWorker worker (·.send true)⟩) hp c₀.paced hspares
    have hwork' : (f.signalWorker worker (·.send true)).IsAtJob worker guard deadline :=
      (Scene.isAtJob_or_endsPass (s := ⟨f, .signalWorker worker (·.send true)⟩) hp trivial
        hwork).resolve_right fun hends => by cases hends.move_eq
    have hstops := r.stops
    rw [hstop] at hstops
    refine (c.isAtJob_or_endsPass hp' hwork' hstops (hspared worker lock happ)).resolve_left ?_
    rintro ⟨w, rest, resume, hw, hphase⟩
    have hover := r.joins
    simp [isProcessing, happ, workerIsOver, hw, Processor.isFinished, hphase] at hover
  destroys := by
    intro worker lock happ
    obtain ⟨-, t, ht, -⟩ := ((r.serves_joined c₀ hs hspared).processes worker lock happ).handles
    refine ⟨t.provider.session, by rw [lockSession, ht]; rfl, ?_⟩
    rcases Scene.actor_cases (s := ⟨r.joined, .closeLock lock⟩) rfl with ⟨hnone, -⟩ | ⟨_, hm, -⟩ |
      ⟨hm, -⟩ | ⟨-, t', ht', heq⟩
    · cases hnone.symm.trans ht
    · cases hm
    · cases hm
    · cases ht'.symm.trans ht
      exact heq
  silent := by
    intro worker lock happ
    obtain ⟨_, c⟩ := r.exists_course_closing
    obtain ⟨hworker, hlock⟩ := r.isOver c₀ hs hspared happ
    have hquiet : ∀ m, (app.closeLock r.joined).IsOver m →
        deeds (r.leaving ++ r.closing) m = [] := by
      intro m hover
      obtain ⟨hclosed, hclosing⟩ := (c₀.trans c).silent hover r.closes
      have hleft := (((c₀.trans c).trans r.closes).silent hclosed r.leaves.whole).2
      rw [deeds_append, List.append_eq_nil_iff] at hleft
      rw [deeds_append, hleft.1, hclosing]
      rfl
    exact ⟨hquiet _ hworker, hquiet _ hlock⟩

theorem Retreat.isOver_final (r : app.Retreat f) (c₀ : Course (Fleet.start registry) h₀ f)
    (hs : app.Serves ttl f) (hspared : app.IsSpared r.stopping) :
    ∀ m ∈ app.members, r.final.IsOver m := by
  obtain ⟨_, c⟩ := r.exists_course_closing
  intro m hm
  rcases mem_members.mp hm with rfl | ⟨worker, lock, happ, hm⟩
  · exact r.leaves.isOver_after ((c.trans r.closes).reports hs.reports)
  · have hover : (app.closeLock r.joined).IsOver m := by
      obtain ⟨hworker, hlock⟩ := r.isOver c₀ hs hspared happ
      rcases hm with rfl | rfl
      · exact hworker
      · exact hlock
    exact ((c₀.trans c).silent hover ((r.closes.trans r.leaves.whole).go
      (.call (.deregister app.node.id app.node.service)) trivial)).1

theorem Retreat.exists_record (r : app.Retreat g)
    (registered : (f₀.perform (registration config id)).1 = .ok ())
    (hs : Starts config id random (f₀.perform (registration config id)).2 app h₁ f)
    (c : Course f h g) (hk : app.KeepsUp (r.aside ++ h))
    (hx₁ : LeavesRecord h₁ [.heartbeat app.node.heartbeat] app.node.id app.node.service)
    (hx : LeavesRecord (r.aside ++ h) app.members app.node.id app.node.service) :
    ∃ last ≤ r.left.now, r.left.backend.record? app.node.service app.node.id =
      some ⟨config.node.advertiseAddress, last⟩ := by
  obtain ⟨hl, cl, hall⟩ := r.exists_course_left
  have hrecord : (f₀.perform (registration config id)).2.backend.record? app.node.service
      app.node.id = some ⟨config.node.advertiseAddress, f₀.now⟩ := by
    rw [hs.node_eq]
    exact Faulty.record?_of_registered registered
  obtain ⟨last, hlast, hle, -⟩ := ((hs.course.trans c).trans cl).exists_latestSign hrecord
    fun s hmem x hxs htouch => by
      rcases List.mem_append.mp hmem with hmem | hmem
      · rcases hall s hmem with haside | ⟨hw, hc⟩
        · exact hk.eq_report hx s (List.mem_append_left _ haside) x hxs htouch
        · exact absurd htouch (Scene.not_touches hw hc x hxs)
      · rcases List.mem_append.mp hmem with hmem | hmem
        · exact hk.eq_report hx s (List.mem_append_right _ hmem) x hxs htouch
        · exact hs.eq_report hx₁ s hmem x hxs htouch
  exact ⟨last, hle, hlast⟩

/-- The sessions of the app are those that its provider has made since the app began to start, for
it makes none when the processor is told to stop. -/
theorem made_whole_iff {stopping own : List Scene} (c₀ : Course (Fleet.start registry) h₀ f₀)
    (hle : f₀.admitted ≤ lock) (hown : ∀ s ∈ own, ∃ n change, s.move = .signalWorker n change)
    {sid : SessionId} :
    Made ((stopping ++ own) ++ (h ++ h₀)) lock sid ↔ Made (stopping ++ h) lock sid := by
  rw [made_iff, made_iff]
  constructor
  · rintro ⟨s, hs, ha, hc⟩
    simp only [List.mem_append] at hs
    rcases hs with (hs | hs) | hs | hs
    · exact ⟨s, List.mem_append_left _ hs, ha, hc⟩
    · obtain ⟨n, change, hmove⟩ := hown s hs
      rw [Scene.actor?, hmove] at ha
      cases ha
    · exact ⟨s, List.mem_append_right _ hs, ha, hc⟩
    · have := c₀.ledger.made_admitted lock sid (made_iff.mpr ⟨s, hs, ha, hc⟩)
      omega
  · rintro ⟨s, hs, hmade⟩
    refine ⟨s, ?_, hmade⟩
    simp only [List.mem_append] at hs ⊢
    tauto

theorem not_misinforms_of_admitted_le (c₀ : Course (Fleet.start registry) h₀ f₀)
    (hle : f₀.admitted ≤ lock) : ∀ s ∈ h₀, ¬ s.Misinforms lock := by
  rintro s hs ⟨ha, sid, e, hrenew, -⟩
  rcases Scene.actor_cases ha with ⟨-, heq⟩ | ⟨_, -, -, heq⟩ | ⟨-, t, _, _, ht, -⟩ |
    ⟨-, t, ht, -⟩
  · rw [heq] at hrenew
    cases hrenew
  · rw [heq, List.mem_singleton] at hrenew
    cases hrenew
  · have := c₀.admitted_of_mem hs ht
    omega
  · have := c₀.admitted_of_mem hs ht
    omega

theorem Retreat.course_final (r : app.Retreat g) : Course (app.closeLock r.joined)
    (⟨r.left, .call (.deregister app.node.id app.node.service)⟩ ::
      (r.leaving ++ [⟨r.closed, .signalHeartbeat app.node.heartbeat (·.send true)⟩] ++ r.closing))
    r.final :=
  (r.closes.trans r.leaves.whole).go (.call (.deregister app.node.id app.node.service)) trivial

/-- If the session could be destroyed, and the store never gave a session that was alive for
unknown, no session of the app is alive any more. -/
theorem Retreat.not_lives_of_destroyed (r : app.Retreat g)
    (c₀ : Course (Fleet.start registry) h₀ f₀) (hle : f₀.admitted ≤ lock) (c : Course f₀ h g)
    (hs : app.Serves ttl g) (hspared : app.IsSpared r.stopping)
    (happ : app.processing = some (worker, lock)) (hclose : (r.joined.closeLock lock).1 = .ok ())
    (hh : ∀ s ∈ r.stopping ++ h, ¬ s.Misinforms lock) (c' : Course r.final h' g') {sid : SessionId}
    (hm : Made (r.stopping ++ h) lock sid) : ¬ g'.Lives sid := by
  obtain ⟨own, cj, hown⟩ := r.exists_course_joined
  have whole := (c₀.trans c).trans cj
  obtain ⟨-, t, ht, -⟩ :=
    ((r.serves_joined (c₀.trans c) hs hspared).processes worker lock happ).handles
  have hclosed : app.closeLock r.joined = (r.joined.closeLock lock).2 := by rw [closeLock, happ]
  have hmade := (made_whole_iff c₀ hle hown).mpr hm
  have hhonest : ∀ s ∈ (r.stopping ++ own) ++ (h ++ h₀), ¬ s.Misinforms lock := by
    intro s hs
    simp only [List.mem_append] at hs
    rcases hs with (hs | hs) | hs | hs
    · exact hh s (List.mem_append_left _ hs)
    · obtain ⟨n, change, hmove⟩ := hown s hs
      rintro ⟨ha, -⟩
      rw [Scene.actor?, hmove] at ha
      cases ha
    · exact hh s (List.mem_append_right _ hs)
    · exact not_misinforms_of_admitted_le c₀ hle s hs
  have hdead := whole.not_lives_of_closed hhonest ht hclose hmade
  have cclosed := whole.go (.closeLock lock) trivial
  have cfinal := r.course_final.trans c'
  rw [hclosed] at cfinal
  exact cfinal.not_lives cclosed.ledger.sound
    (cclosed.ledger.numbered lock sid (hmade.cons ⟨r.joined, .closeLock lock⟩)) hdead

/-- Whether or not the session could be destroyed, once the time to live has passed no session of
the app is alive, unless others have renewed it. -/
theorem Retreat.not_lives_of_late (r : app.Retreat g)
    (c₀ : Course (Fleet.start registry) h₀ f₀) (hle : f₀.admitted ≤ lock) (c : Course f₀ h g)
    (hs : app.Serves ttl g) (hspared : app.IsSpared r.stopping)
    (happ : app.processing = some (worker, lock)) (c' : Course r.final h' g')
    (hlate : r.joined.now + ttl < g'.now)
    (hrenew : ∀ s ∈ h' ++ (r.leaving ++ r.closing), ∀ sid, Made (r.stopping ++ h) lock sid →
      .called (.renewSession sid) (.ok ()) ∈ s.happenings → ∃ k, s.move = .wake (.lock k))
    {sid : SessionId} (hm : Made (r.stopping ++ h) lock sid) : ¬ g'.Lives sid := by
  obtain ⟨own, cj, hown⟩ := r.exists_course_joined
  have whole := (c₀.trans c).trans cj
  obtain ⟨-, t, ht, -, httl⟩ :=
    ((r.serves_joined (c₀.trans c) hs hspared).processes worker lock happ).handles
  have hclosed : app.closeLock r.joined = (r.joined.closeLock lock).2 := by rw [closeLock, happ]
  have hgone := (r.isOver (c₀.trans c) hs hspared happ).2
  have cfinal := r.course_final.trans c'
  rw [hclosed] at hgone cfinal
  have hmade : ∀ {sid}, Made (⟨r.joined, .closeLock lock⟩ :: ((r.stopping ++ own) ++ (h ++ h₀)))
      lock sid → Made ((r.stopping ++ own) ++ (h ++ h₀)) lock sid :=
    Ledger.made_of_going (s := ⟨r.joined, .closeLock lock⟩) whole.ledger ht hgone.none
  have hbound : ∀ sid v, Made (⟨r.joined, .closeLock lock⟩ :: ((r.stopping ++ own) ++ (h ++ h₀)))
      lock sid → (r.joined.closeLock lock).2.backend.session? sid = some v →
        v.expires ≤ r.joined.now + ttl := fun sid v hm hv =>
    httl ▸ Ledger.expires_of_going (s := ⟨r.joined, .closeLock lock⟩) whole.ledger ht (hmade hm) hv
  have hexpires := ((whole.go (.closeLock lock) trivial).gone hgone cfinal
    (fun s hs sid hm hr => ?_) hbound).2.2
  · rintro ⟨v, hv, hlives⟩
    have := hexpires sid v (((made_whole_iff c₀ hle hown).mpr hm).cons _) hv
    omega
  · have hmade' := (made_whole_iff c₀ hle hown).mp (hmade hm)
    simp only [List.mem_append, List.mem_cons, List.not_mem_nil, or_false] at hs
    rcases hs with hs | rfl | (hs | rfl) | hs
    · exact hrenew s (List.mem_append_left _ hs) sid hmade' hr
    · rw [Scene.happenings_of_call rfl, List.mem_singleton] at hr
      cases hr
    · exact hrenew s (List.mem_append_right _ (List.mem_append_left _ hs)) sid hmade' hr
    · rw [Scene.happenings_of_signalHeartbeat rfl] at hr
      cases hr
    · exact hrenew s (List.mem_append_right _ (List.mem_append_right _ hs)) sid hmade' hr

/-- An app that is shut down retreats, and the fleet only goes on by itself meanwhile, if no other
processor of the fleet goes without pauses or has lost its provider. -/
theorem exists_retreat (c₀ : Course (Fleet.start registry) h₀ g) (hs : app.Serves ttl g)
    (ho : ∀ k w, (∀ lock, app.processing ≠ some (k, lock)) → g.workers.get? k = some w →
      g.InOrder w) :
    ∃ r : app.Retreat g, r.final = app.shutdown g ∧ ∀ s ∈ r.aside, s.move.IsInner := by
  cases happ : app.processing with
  | none =>
    have hstop : app.stopProcessor g = g := by rw [stopProcessor, happ]
    have hclose : app.closeLock g = g := by rw [closeLock, happ]
    have hjoins : app.isProcessing g = false := by rw [isProcessing, happ]
    have hshutdown : app.shutdown g = app.node.shutdown g := by rw [shutdown, happ]
    obtain ⟨h, left, hdeparts, hwakes, hshut⟩ := Node.exists_departs c₀.paced hs.reports
    refine ⟨⟨[], g, hstop.symm ▸ .stay, hjoins, [], g, hclose.symm ▸ .stay, h, left, hdeparts⟩,
      (hshutdown.trans hshut).symm, fun s hs => ?_⟩
    · obtain ⟨m, hm⟩ := hwakes s (by simpa [Retreat.aside] using hs)
      rw [hm]
      trivial
  | some processing =>
    obtain ⟨worker, lock⟩ := processing
    have hstop : app.stopProcessor g = g.signalWorker worker (·.send true) := by
      rw [stopProcessor, happ]
    have hp := hs.processes worker lock happ
    obtain ⟨w, hw, hlock, -⟩ := hp.reader
    have c := c₀.go (.signalWorker worker (·.send true)) trivial
    -- the processor has its provider, and it rests now that it has been told to stop
    have horderly : (g.signalWorker worker (·.send true)).IsOrderly := by
      obtain ⟨-, t, ht, -⟩ := hp.handles
      refine isOrderly_signalWorker hw ⟨t, hlock ▸ ht⟩ fun k v hk hv => ?_
      refine ho k v (fun lock' happ' => hk ?_) hv
      cases happ.symm.trans happ'
      rfl
    obtain ⟨limit, hends⟩ := exists_ends_signalWorker hw
    have hover : ((g.signalWorker worker (·.send true)).joinWorker worker).workerIsOver worker =
        true := workerIsOver_joinWorker c.paced horderly hends
    obtain ⟨h, cj, hown⟩ := exists_course_joinWorker (g.signalWorker worker (·.send true)) worker
    obtain ⟨joined, hjoined⟩ :
        ∃ joined, joined = (g.signalWorker worker (·.send true)).joinWorker worker := ⟨_, rfl⟩
    rw [← hjoined] at hover cj
    have hjoins : app.isProcessing joined = false := by
      rw [isProcessing, happ]
      simpa using hover
    have hshutdown : app.shutdown g = app.node.shutdown (joined.closeLock lock).2 := by
      rw [shutdown, happ, hjoined]
    have hclose : app.closeLock joined = (joined.closeLock lock).2 := by rw [closeLock, happ]
    have cc := (c.trans cj).go (.closeLock lock) trivial
    have hr := ((Course.stay.go (.signalWorker worker (·.send true)) trivial).trans cj).go
      (.closeLock lock) trivial |>.reports hs.reports
    obtain ⟨h', left, hdeparts, hwakes, hshut⟩ := Node.exists_departs cc.paced hr
    refine ⟨⟨h, joined, hstop.symm ▸ cj, hjoins, [], _, hclose.symm ▸ .stay, h', left, hdeparts⟩,
      (hshutdown.trans hshut).symm, fun s hs => ?_⟩
    · simp only [Retreat.aside, List.append_nil, List.mem_append] at hs
      rcases hs with hs | hs
      · obtain ⟨m, hm⟩ := hwakes s hs
        rw [hm]
        trivial
      · exact (hown s hs).isInner

/-- What there is of an app when the fleet has gone on after its retreat. The app was registered in
`f₀`, started through `h₁`, ran through `h`, and the fleet has gone on through `h'` to `g'`. -/
structure Retreat.LeavesNothing (r : app.Retreat g) (config : Config) (window : Nat)
    (h₁ h h' : List Scene) (g' : Fleet (Faulty Cluster)) : Prop where
  silent : ∀ m ∈ app.members, deeds h' m = []
  /-- The record is gone, or it could not be deregistered and gets too old to be resolved. -/
  record : LeavesRecord h₁ [.heartbeat app.node.heartbeat] app.node.id app.node.service →
    LeavesRecord (h' ++ (r.aside ++ h)) app.members app.node.id app.node.service →
      (r.left.perform (.deregister app.node.id app.node.service)).1 = .ok () ∧
          g'.backend.record? app.node.service app.node.id = none ∨
        (∃ e, (r.left.perform (.deregister app.node.id app.node.service)).1 = .error e) ∧
          (r.left.now + window < g'.now →
            g'.IsAloneAt app.node.id app.node.service config.node.advertiseAddress →
              ¬ g'.Lists app.node.service config.node.advertiseAddress)
  /-- The sessions are gone if the last one could be destroyed and none was falsely given for
  unknown, and else when their time to live has passed. -/
  sessions : ∀ worker lock, app.processing = some (worker, lock) →
    ((r.joined.closeLock lock).1 = .ok () ∧ (∀ s ∈ r.stopping ++ (h ++ h₁), ¬ s.Misinforms lock) ∨
      r.joined.now + config.sessionTtl < g'.now ∧ ∀ s ∈ h' ++ (r.leaving ++ r.closing), ∀ sid,
        Made (r.stopping ++ (h ++ h₁)) lock sid →
          .called (.renewSession sid) (.ok ()) ∈ s.happenings → ∃ k, s.move = .wake (.lock k)) →
    ∀ sid, Made (r.stopping ++ (h ++ h₁)) lock sid →
      ¬ g'.Lives sid ∧ ∀ key, g'.holder key ≠ some sid

/-- An app that has started, whatever has befallen the fleet since, can be shut down at any time. A
job in progress comes to its end or to its deadline and its lock is released; only then the session
is destroyed, and only then, when the heartbeat has ended, the instance is deregistered. After that
no member of the app makes a call, and nothing is left: what the backend refused to undo lapses, the
sessions when their time to live has passed and the record when the liveness window has. -/
theorem shutdown_leaves_nothing (c₀ : Course (Fleet.start registry) h₀ f₀)
    (hu : registry.records.Unique) :
    (∀ random app f, App.start f₀ config id random = (.ok app, f) →
      (f₀.perform (registration config id)).1 = .ok () ∧
        ∃ h₁, Starts config id random (f₀.perform (registration config id)).2 app h₁ f) ∧
    ∀ random app h₁ f, (f₀.perform (registration config id)).1 = .ok () →
      Starts config id random (f₀.perform (registration config id)).2 app h₁ f →
      ∀ h g, Course f h g → app.IsSpared h →
        ((∀ k w, (∀ lock, app.processing ≠ some (k, lock)) → g.workers.get? k = some w →
            g.InOrder w) →
          ∃ r : app.Retreat g, r.final = app.shutdown g ∧ ∀ s ∈ r.aside, s.move.IsInner) ∧
        ∀ r : app.Retreat g, app.IsSpared r.stopping → r.Unwinds h ∧
          ∀ h' g', Course r.final h' g' →
            r.LeavesNothing config registry.window h₁ h h' g' := by
  refine ⟨fun random app f => exists_starts_of_start,
    fun random app h₁ f registered hstarts h g c hspared => ?_⟩
  have cstart := c₀.go (.call (registration config id)) trivial
  have crun := hstarts.course.trans c
  have hserves := hstarts.serves.course (cstart.trans hstarts.course) c hspared
  refine ⟨fun ho => exists_retreat (cstart.trans crun) hserves ho, fun r hstopping => ?_⟩
  have hunwinds := r.unwinds (cstart.trans crun) hserves hstopping
    (hstarts.serves.keepsUp (cstart.trans hstarts.course) c hspared)
  have hover := r.isOver_final (cstart.trans crun) hserves hstopping
  obtain ⟨hl, cl, -⟩ := r.exists_course_left
  have cleft := (cstart.trans crun).trans cl
  have cfinal := cleft.go (.call (.deregister app.node.id app.node.service)) trivial
  refine ⟨hunwinds, fun h' g' c' => ⟨fun m hm => (cfinal.silent (hover m hm) c').2, ?_, ?_⟩⟩
  · intro hx₁ hx
    obtain ⟨hlater, hbefore⟩ := leavesRecord_append.mp hx
    obtain ⟨last, hle, hlast⟩ :=
      r.exists_record registered hstarts c hunwinds.keepsUp hx₁ hbefore
    refine (record?_after_deregister cleft hu hlast hover c' hlater).imp_right
      fun ⟨herror, _, hold⟩ => ⟨herror, fun hlate => hold ?_⟩
    omega
  · intro worker lock happ hcase sid hm
    have hdead : ¬ g'.Lives sid := by
      rcases hcase with ⟨hclose, hh⟩ | ⟨hlate, hrenew⟩
      · exact r.not_lives_of_destroyed cstart (hstarts.admitted_le happ) crun hserves hstopping happ
          hclose hh c' hm
      · exact r.not_lives_of_late cstart (hstarts.admitted_le happ) crun hserves hstopping happ c'
          hlate hrenew hm
    exact ⟨hdead, fun key hheld =>
      hdead ((holder_eq_some_iff (cfinal.trans c').ledger.sound).mp hheld).2⟩

def outages (refused : Bool) : List Move :=
  (if refused then [.inject ⟨.release, .unavailable "store", 1⟩,
    .inject ⟨.destroySession, .unavailable "store", 1⟩,
    .inject ⟨.deregister, .unavailable "registry", 1⟩] else []) ++
    [.inject ⟨.addresses, .unavailable "registry", 1⟩]

def signedUp (refused : Bool) : Fleet (Faulty Cluster) :=
  (((Fleet.start .standard).afterAll (outages refused)).perform
    (registration lockedApp ⟨"movie-1"⟩)).2

def beating (refused : Bool) : Fleet (Faulty Cluster) :=
  ((signedUp refused).startHeartbeat ⟨"movie-1"⟩ "movie" (Duration.ofSecs 1) {}).2

def lots : RandomSource := ⟨.replicate 8 0, 0⟩

def launched (refused : Bool) : Fleet (Faulty Cluster) :=
  (((beating refused).openLock lockedApp.sessionTtl).2.startWorker 1 (processor lockedApp lots)).2

def launch (refused : Bool) : List Scene :=
  [⟨((beating refused).openLock lockedApp.sessionTtl).2,
      .startWorker 1 (processor lockedApp lots)⟩,
    ⟨beating refused, .openLock lockedApp.sessionTtl⟩,
    ⟨signedUp refused, .startHeartbeat ⟨"movie-1"⟩ "movie" (Duration.ofSecs 1) {}⟩]

def launchedApp : App := ⟨⟨⟨"movie-1"⟩, "movie", 0⟩, some (2, 1)⟩

theorem starts_launched (refused : Bool) : Starts lockedApp ⟨"movie-1"⟩ lots (signedUp refused)
    launchedApp (launch refused) (launched refused) := by
  cases refused
  · exact .locked rfl .stay rfl
  · exact .locked rfl .stay rfl

def firstPass : List Move := [.wake (.worker 2), .wake (.heartbeat 0)]

def lastSecond : List Move :=
  [.wake (.worker 2), .wake (.worker 2), .wake (.heartbeat 0), .pass (Duration.ofSecs 1)]

def retreat (refused : Bool) : launchedApp.Retreat ((launched refused).afterAll firstPass) where
  stopping := _
  joined := _
  stops := course_scenes _ lastSecond (by revert refused; decide +kernel)
  joins := by revert refused; decide +kernel
  closing := []
  closed := _
  closes := .stay
  leaving := _
  left := _
  leaves := ⟨course_scenes _ [.wake (.heartbeat 0)] (by revert refused; decide +kernel),
    by revert refused; decide +kernel⟩

theorem made_launch (refused : Bool) : Made ((retreat refused).stopping ++
    ((launched refused).scenes firstPass ++ launch refused)) 1 (Cluster.sessionId 1) := by
  refine made_iff.mpr ⟨⟨beating refused, .openLock lockedApp.sessionTtl⟩, ?_, ?_,
    lockedApp.sessionTtl, ?_⟩
  · simp [launch]
  · cases refused <;> rfl
  · rw [Scene.happenings_of_open rfl]
    cases refused <;> exact List.mem_singleton_self _

theorem leavesRecord_launch (refused : Bool) :
    LeavesRecord (launch refused) [.heartbeat 0] ⟨"movie-1"⟩ "movie" := by
  intro s hs _
  simp only [launch, List.mem_cons, List.not_mem_nil, or_false] at hs
  rcases hs with rfl | rfl | rfl
  · exact Scene.not_touches nofun nofun
  · exact Scene.not_touches nofun nofun
  · exact Scene.not_touches nofun nofun

def oblivion : List Move := [.pass (Duration.ofMillis 11001)]

theorem leavesRecord_retreat (refused : Bool) :
    LeavesRecord ((retreat refused).final.scenes oblivion ++
      ((retreat refused).aside ++ (launched refused).scenes firstPass)) launchedApp.members
        ⟨"movie-1"⟩ "movie" := by
  have hquiet : ∀ refused, ∀ s ∈ (retreat refused).final.scenes oblivion ++
      ((retreat refused).aside ++ (launched refused).scenes firstPass),
      (∀ m ∈ launchedApp.members, s.actor? ≠ some m) → s.happenings = [] := by
    decide +kernel
  intro s hs ha x hx
  rw [hquiet refused s hs ha] at hx
  cases hx

/-- The lock provider of the app has no turn until the app is shut down, so nobody lies to it. -/
theorem not_misinforms_launched : ∀ s ∈ (retreat false).stopping ++
    ((launched false).scenes firstPass ++ launch false), ¬ s.Misinforms 1 := by
  have hidle : ∀ s ∈ (retreat false).stopping ++ (launched false).scenes firstPass,
      s.actor? ≠ some (.lock 1) := by
    decide +kernel
  rw [← List.append_assoc]
  rintro s hs ⟨ha, sid, e, hrenew, -⟩
  rcases List.mem_append.mp hs with hs | hs
  · exact hidle s hs ha
  · simp only [launch, List.mem_cons, List.not_mem_nil, or_false] at hs
    rcases hs with rfl | rfl | rfl
    · cases ha
    · rw [Scene.happenings_of_open rfl, List.mem_singleton] at hrenew
      cases hrenew
    · cases ha

/-- If nothing is refused, the record and the session are gone at once. Otherwise both stay behind,
but the session holds no key when its time to live has passed, and the record is resolved no longer
than the liveness window. In either case the processor gets to release its lock. -/
theorem nothing_left_of_launched :
    (∀ refused, ∃ s ∈ (retreat refused).stopping,
      s.EndsPass 2 ⟨lockedApp.lock.key, Cluster.sessionId 1⟩ (Duration.ofSecs 300)) ∧
    ((retreat false).final.afterAll oblivion).backend.record? "movie" ⟨"movie-1"⟩ = none ∧
    (∀ key, (retreat false).final.holder key ≠ some (Cluster.sessionId 1)) ∧
    (retreat true).final.holder lockedApp.lock.key = some (Cluster.sessionId 1) ∧
    (∀ key, ((retreat true).final.afterAll oblivion).holder key ≠ some (Cluster.sessionId 1)) ∧
    (retreat true).final.Lists "movie" "localhost:8083" ∧
    ¬ ((retreat true).final.afterAll oblivion).Lists "movie" "localhost:8083" := by
  have c₀ := fun refused => course_scenes (Fleet.start .standard) (outages refused)
    (by revert refused; decide +kernel)
  have crun := fun refused => course_scenes (launched refused) firstPass
    (by revert refused; decide +kernel)
  have clater := fun refused => course_scenes (retreat refused).final oblivion
    (by revert refused; decide +kernel)
  have hregistered : ∀ refused, (((Fleet.start .standard).afterAll (outages refused)).perform
      (registration lockedApp ⟨"movie-1"⟩)).1 = .ok () := by
    intro refused
    cases refused <;> rfl
  have hrun : ∀ refused, launchedApp.IsSpared ((launched refused).scenes firstPass) := by
    intro refused _ _ _
    simp [firstPass, scenes, Move.Spares]
  have hstopping : ∀ refused, launchedApp.IsSpared (retreat refused).stopping := by
    intro refused _ _ _
    simp [retreat, lastSecond, scenes, Move.Spares]
  have hall := fun refused => ((shutdown_leaves_nothing (c₀ refused) Table.unique_empty).2 lots
    launchedApp (launch refused) (launched refused) (hregistered refused) (starts_launched refused)
    _ _ (crun refused) (hrun refused)).2 (retreat refused) (hstopping refused)
  have hrecord := fun refused => ((hall refused).2 _ _ (clater refused)).record
    (leavesRecord_launch refused) (leavesRecord_retreat refused)
  refine ⟨fun refused => (hall refused).1.endsPass 2 1 _ _ rfl ?_, ?_, ?_, by decide +kernel, ?_,
    ⟨_, rfl, List.mem_singleton_self _⟩, ?_⟩
  · cases refused <;> exact ⟨_, _, _, rfl, rfl⟩
  · rcases hrecord false with ⟨-, hnone⟩ | ⟨⟨e, he⟩, -⟩
    · exact hnone
    · cases he
  · exact (((hall false).2 [] _ .stay).sessions 2 1 rfl (.inl ⟨rfl, not_misinforms_launched⟩) _
      (made_launch false)).2
  · refine (((hall true).2 _ _ (clater true)).sessions 2 1 rfl (.inr ⟨by decide +kernel, ?_⟩) _
      (made_launch true)).2
    have hquiet : ∀ s ∈ (retreat true).final.scenes oblivion ++
        ((retreat true).leaving ++ (retreat true).closing), s.happenings = [] := by
      decide +kernel
    intro s hs sid _ hr
    rw [hquiet s hs] at hr
    cases hr
  · rcases hrecord true with ⟨hok, -⟩ | ⟨-, hold⟩
    · cases hok
    · refine hold (by decide +kernel) fun id' record hr _ => ?_
      have hrecords : ((retreat true).final.afterAll oblivion).backend.behind.registry.records =
        ⟨[(("movie", ⟨"movie-1"⟩), ⟨"localhost:8083", Duration.ofSecs 1⟩)]⟩ := rfl
      have hmem := Table.mem_entries_of_get? hr
      simp only [hrecords, List.mem_singleton, Prod.mk.injEq] at hmem
      exact hmem.1.2

end App

end Rollcall
