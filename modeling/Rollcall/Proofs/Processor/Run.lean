import Rollcall.Proofs.Fleet.Phases
import Rollcall.Proofs.Progress
import Mathlib.Order.Closure

/-!
# Runs of a processor

A processor by itself, whatever it runs in: the answers to its questions may be any, its provider
may have any session whenever it is asked, and its owner may set its flag as often as it likes until
it lets go of it. A run is the list of what befell the processor, the latest first; what is asked of
the clock is left to each statement about runs.
-/

namespace Rollcall.Processor

open Plan (Exchange atOnce)

inductive Incident where
  | woken (l : List (Exchange Work))
  | passed (target : ℕ)
  | sent (value : Bool)
  | dropped

/-- An incident, with the processor before it and the time. -/
structure Moment where
  before : Processor
  now : ℕ
  incident : Incident

/-- The runs of a processor from an instant on. Its owner sends nothing after it has let go of the
flag. Which lots were drawn is among the answers, so nothing depends on the random source. -/
inductive Run (p : Processor) (t : ℕ) : List Moment → Processor → ℕ → Prop
  | start : Run p t [] p t
  | wake {h q u d session l q'} (r : Run p t h q u) (hdue : q.due = some d) (hd : d ≤ u)
      (hgo : (q.wake session u).Proceeds atOnce u l (.done q') u) (random : RandomSource) :
      Run p t (⟨q, u, .woken l⟩ :: h) { q' with random } u
  | pass {h q u} (r : Run p t h q u) {target : ℕ} (htarget : u ≤ target) :
      Run p t (⟨q, u, .passed target⟩ :: h) q target
  | send {h q u} (r : Run p t h q u) (hheld : q.signal.isDropped = false) (value : Bool) :
      Run p t (⟨q, u, .sent value⟩ :: h) { q with signal := q.signal.send value } u
  | drop {h q u} (r : Run p t h q u) :
      Run p t (⟨q, u, .dropped⟩ :: h) { q with signal := q.signal.dropOwner } u

/-- A clock stands at some instants only; a timer goes off at the first of them at or after the
instant at which it is due. On the clock that stands at every instant all timers are on time. -/
abbrev Clock : Type := ClosureOperator ℕ

def Clock.milli : Clock :=
  ClosureOperator.mk' Instant.ceilMilli (fun _ _ h => by unfold Instant.ceilMilli; omega)
    Instant.le_ceilMilli fun _ => by unfold Instant.ceilMilli; omega

theorem Clock.isClosed_milli (n : ℕ) : Clock.milli.IsClosed (Duration.ofMillis n) := by
  refine Clock.milli.isClosed_iff.mpr ?_
  change (n * 1000000 + 999999) / 1000000 * 1000000 = n * 1000000
  omega

namespace Moment

/-- The clock does not go beyond the instant at which the processor has something to do. -/
def IsPunctual (clock : Clock) (s : Moment) : Prop :=
  ∀ target, s.incident = .passed target →
    clock.IsClosed target ∧ ∀ d, s.before.due = some d → target ≤ clock d

theorem isPunctual_woken {clock : Clock} {p : Processor} {now : ℕ} {l : List (Exchange Work)} :
    IsPunctual clock ⟨p, now, .woken l⟩ := by
  intro target h
  cases h

theorem isPunctual_sent {clock : Clock} {p : Processor} {now : ℕ} {value : Bool} :
    IsPunctual clock ⟨p, now, .sent value⟩ := by
  intro target h
  cases h

theorem isPunctual_dropped {clock : Clock} {p : Processor} {now : ℕ} :
    IsPunctual clock ⟨p, now, .dropped⟩ := by
  intro target h
  cases h

def exchanges (s : Moment) : List (Exchange Work) :=
  match s.incident with
  | .woken l => l
  | _ => []

/-- When a pass began, if one did: a processor that is ready begins by asking for its lock. -/
def begun (s : Moment) : List ℕ :=
  match s.before.phase, s.exchanges with
  | .ready, _ :: _ => [s.now]
  | _, _ => []

end Moment

def exchanges (h : List Moment) : List (Exchange Work) := h.reverse.flatMap Moment.exchanges

def begun (h : List Moment) : List ℕ := h.reverse.flatMap Moment.begun

@[simp] theorem exchanges_nil : exchanges [] = [] := rfl

@[simp] theorem begun_nil : begun [] = [] := rfl

@[simp] theorem exchanges_cons (s : Moment) (h : List Moment) :
    exchanges (s :: h) = exchanges h ++ s.exchanges := by
  simp [exchanges]

@[simp] theorem begun_cons (s : Moment) (h : List Moment) :
    begun (s :: h) = begun h ++ s.begun := by
  simp [begun]

theorem exchanges_append (h' h : List Moment) :
    exchanges (h' ++ h) = exchanges h ++ exchanges h' := by
  simp [exchanges]

theorem begun_append (h' h : List Moment) : begun (h' ++ h) = begun h ++ begun h' := by
  simp [begun]

section Turn

variable {clock : Clock} {settings : Settings} {guard : LockGuard} {deadline now t u d : ℕ}
  {l : List (Exchange Work)} {phase : Phase} {session : SessionId} {p q : Processor}

def Clock.wait (clock : Clock) (t d : ℕ) : ℕ := clock (t + d)

theorem Clock.le_closed (ht : clock.IsClosed t) (h : u ≤ t) : clock u ≤ t :=
  clock.closure_min h ht

theorem Clock.wait_zero (ht : clock.IsClosed t) : clock.wait t 0 = t := ht.closure_eq

def asking (now : ℕ) (key : String) (session : SessionId) (r : Except Error Bool) :
    Exchange Work := ⟨now, .call (.acquire key session), r⟩

def releasing (now : ℕ) (guard : LockGuard) (r : Except Error Unit) : Exchange Work :=
  ⟨now, .call (.release guard.key guard.session), r⟩

/-- What a job does under a guard until it has to wait: its pass ends by itself, or at the deadline,
or is left to go on. -/
inductive Bursts (clock : Clock) (settings : Settings) (guard : LockGuard) (deadline now : ℕ)
    (rest : Plan Work (Except Error Unit)) : List (Exchange Work) → Phase → Prop
  | ends {l : List (Exchange Work)} {result : Except Error Unit}
      (h : rest.Proceeds clock.wait now l (.done result) now) (r : Except Error Unit) :
      Bursts clock settings guard deadline now rest (l ++ [releasing now guard r])
        (.pausing (.ofResult result) (now + (Outcome.ofResult result).pause settings))
  | cut {l : List (Exchange Work)} {d : ℕ} {next : Unit → Plan Work (Except Error Unit)}
      (h : rest.Proceeds clock.wait now l (.wait d next) now) (hd : 0 < d)
      (hdeadline : deadline ≤ now) (r : Except Error Unit) :
      Bursts clock settings guard deadline now rest (l ++ [releasing now guard r])
        (.pausing .timedOut (now + settings.runInterval))
  | waits {l : List (Exchange Work)} {d : ℕ} {next : Unit → Plan Work (Except Error Unit)}
      (h : rest.Proceeds clock.wait now l (.wait d next) now) (hd : 0 < d)
      (hdeadline : now < deadline) :
      Bursts clock settings guard deadline now rest l
        (.working guard (next ()) (now + d) deadline)

theorem proceeds_endPass {outcome : Outcome} (h : (endPass settings guard outcome now).Proceeds
    atOnce t l (.done phase) u) : ∃ r, l = [releasing t guard r] ∧
      phase = .pausing outcome (now + outcome.pause settings) := by
  obtain ⟨r, l', rfl, hdone⟩ := Plan.proceeds_ask_iff.mp h
  obtain ⟨rfl, hphase, -⟩ := Plan.proceeds_done_iff.mp hdone
  cases hphase
  exact ⟨r, rfl, rfl⟩

theorem Bursts.of_proceeds {rest : Plan Work (Except Error Unit)} (hnow : clock.IsClosed now)
    (h : (burst settings guard deadline now rest).Proceeds atOnce now l (.done phase) now) :
    Bursts clock settings guard deadline now rest l phase := by
  obtain ⟨l₁, stop, v, l₂, rfl, hrest, hafter⟩ := Plan.proceeds_bind_iff.mp h
  obtain rfl := hrest.time_eq
  rcases Plan.Proceeds.of_upToWait (Clock.wait_zero hnow) hrest with ⟨result, rfl, hburst⟩ |
    ⟨d, next, rfl, hd, hburst⟩
  · obtain ⟨r, rfl, rfl⟩ := proceeds_endPass hafter
    exact .ends hburst r
  · simp only [afterBurst] at hafter
    split_ifs at hafter with hdeadline
    · obtain ⟨r, rfl, rfl⟩ := proceeds_endPass hafter
      exact .cut hburst hd hdeadline r
    · obtain ⟨rfl, hphase, -⟩ := Plan.proceeds_done_iff.mp hafter
      cases hphase
      rw [List.append_nil]
      exact .waits hburst hd (not_le.mp hdeadline)

/-- What a processor comes to when it is woken: the exchanges it makes, its flag, and its phase. -/
inductive Turns (clock : Clock) (p : Processor) (now : ℕ) :
    List (Exchange Work) → Signal → Phase → Prop
  | rested {outcome ends} (hp : p.phase = .pausing outcome ends) (hends : ends ≤ now) :
      Turns clock p now [] p.signal .ready
  | noticed {outcome ends} (hp : p.phase = .pausing outcome ends) (hends : now < ends)
      (hnews : p.signal.isNews = true) :
      Turns clock p now [] p.signal.look (if p.signal.value then .finished else .ready)
  | abandoned {outcome ends} (hp : p.phase = .pausing outcome ends) (hends : now < ends)
      (hnews : p.signal.isNews = false) (hdropped : p.signal.isDropped = true) :
      Turns clock p now [] p.signal .finished
  | stopped (hp : p.phase = .ready) (hvalue : p.signal.value = true) :
      Turns clock p now [] p.signal .finished
  | contended (hp : p.phase = .ready) (hvalue : p.signal.value = false) (session : SessionId) :
      Turns clock p now [asking now p.settings.lockKey session (.ok false)] p.signal
        (.pausing .contended (now + p.settings.retryBackoff))
  | refused (hp : p.phase = .ready) (hvalue : p.signal.value = false) (session : SessionId)
      (e : Error) : Turns clock p now [asking now p.settings.lockKey session (.error e)] p.signal
        (.pausing .lockError (now + p.settings.retryBackoff))
  | acquired {session : SessionId} {l : List (Exchange Work)} {phase : Phase}
      (hp : p.phase = .ready) (hvalue : p.signal.value = false)
      (hburst : Bursts clock p.settings ⟨p.settings.lockKey, session⟩
        (now + p.settings.workTimeout) now p.job.plan l phase) :
      Turns clock p now (asking now p.settings.lockKey session (.ok true) :: l) p.signal phase
  | resumed {guard : LockGuard} {rest : Plan Work (Except Error Unit)} {resume deadline : ℕ}
      {l : List (Exchange Work)} {phase : Phase}
      (hp : p.phase = .working guard rest resume deadline) (hresume : resume ≤ now)
      (hburst : Bursts clock p.settings guard deadline now rest l phase) :
      Turns clock p now l p.signal phase
  | expired {guard : LockGuard} {rest : Plan Work (Except Error Unit)} {resume deadline : ℕ}
      (hp : p.phase = .working guard rest resume deadline)
      (hresume : now < resume) (hdeadline : deadline ≤ now) (r : Except Error Unit) :
      Turns clock p now [releasing now guard r] p.signal
        (.pausing .timedOut (now + p.settings.runInterval))

theorem Turns.of_begin (hnow : clock.IsClosed now) (hp : p.phase = .ready)
    (hvalue : p.signal.value = false)
    (h : (begin p.settings p.job session now).Proceeds atOnce now l (.done phase) now) :
    Turns clock p now l p.signal phase := by
  rw [begin_eq] at h
  obtain ⟨r, l', rfl, hnext⟩ := Plan.proceeds_ask_iff.mp h
  rcases (r : Except Error Bool) with e | _ | _
  · obtain ⟨rfl, hphase, -⟩ := Plan.proceeds_done_iff.mp hnext
    cases hphase
    exact .refused hp hvalue session e
  · obtain ⟨rfl, hphase, -⟩ := Plan.proceeds_done_iff.mp hnext
    cases hphase
    exact .contended hp hvalue session
  · exact .acquired hp hvalue (.of_proceeds hnow hnext)

theorem proceeds_map {f : Phase → Processor} {plan : Plan Work Phase}
    (h : (plan.map f).Proceeds atOnce now l (.done q) now) :
    ∃ phase, q = f phase ∧ plan.Proceeds atOnce now l (.done phase) now := by
  obtain ⟨l₁, phase, v, l₂, rfl, hplan, hdone⟩ := Plan.proceeds_bind_iff.mp h
  obtain ⟨rfl, hq, rfl⟩ := Plan.proceeds_done_iff.mp hdone
  cases hq
  rw [List.append_nil]
  exact ⟨phase, rfl, hplan⟩

theorem exists_turns (hnow : clock.IsClosed now) (hdue : p.due = some d) (hd : d ≤ now)
    (h : (p.wake session now).Proceeds atOnce now l (.done q) now) :
    ∃ signal phase, Turns clock p now l signal phase ∧ q = { p with signal, phase } := by
  unfold wake at h
  cases hp : p.phase with
  | finished =>
    rw [due, hp] at hdue
    cases hdue
  | ready =>
    simp only [hp] at h
    split_ifs at h with hvalue
    · obtain ⟨rfl, hq, -⟩ := Plan.proceeds_done_iff.mp h
      cases hq
      exact ⟨_, _, .stopped hp hvalue, rfl⟩
    · obtain ⟨phase, rfl, hbegin⟩ := proceeds_map h
      exact ⟨_, _, .of_begin hnow hp (Bool.eq_false_iff.mpr hvalue) hbegin, rfl⟩
  | working guard rest resume deadline =>
    rw [due, hp] at hdue
    simp only [hp] at h
    split_ifs at h with hresume hdeadline
    · obtain ⟨phase, rfl, hburst⟩ := proceeds_map h
      exact ⟨_, _, .resumed hp hresume (.of_proceeds hnow hburst), rfl⟩
    · obtain ⟨phase, rfl, hend⟩ := proceeds_map h
      obtain ⟨r, rfl, rfl⟩ := proceeds_endPass hend
      exact ⟨_, _, .expired hp (not_le.mp hresume) hdeadline r, rfl⟩
    · obtain rfl := Option.some.inj hdue
      omega
  | pausing outcome ends =>
    simp only [hp] at h
    split_ifs at h with hends hnews hvalue hdropped
    · obtain ⟨rfl, hq, -⟩ := Plan.proceeds_done_iff.mp h
      cases hq
      exact ⟨_, _, .rested hp hends, rfl⟩
    · obtain ⟨rfl, hq, -⟩ := Plan.proceeds_done_iff.mp h
      cases hq
      exact ⟨_, _, .noticed hp (not_le.mp hends) hnews, by rw [if_pos hvalue]⟩
    · obtain ⟨rfl, hq, -⟩ := Plan.proceeds_done_iff.mp h
      cases hq
      exact ⟨_, _, .noticed hp (not_le.mp hends) hnews, by rw [if_neg hvalue]⟩
    · obtain ⟨rfl, hq, -⟩ := Plan.proceeds_done_iff.mp h
      cases hq
      exact ⟨_, _, .abandoned hp (not_le.mp hends) (Bool.eq_false_iff.mpr hnews) hdropped, rfl⟩
    · have hstirs : p.signal.stirs = false := by
        simp only [Signal.stirs, hnews, hdropped, Bool.or_self]
      rw [due, hp] at hdue
      simp only [hstirs, Bool.false_eq_true, if_false] at hdue
      obtain rfl := Option.some.inj hdue
      exact absurd hd hends

end Turn

variable {clock : Clock} {p q : Processor} {now t u : ℕ} {l : List (Exchange Work)}
  {session : SessionId} {h : List Moment}

theorem due_of_isNews {outcome : Outcome} {ends : ℕ} (hp : p.phase = .pausing outcome ends)
    (hnews : p.signal.isNews = true) : p.due = some 0 := by
  rw [due, hp]
  exact if_pos (by rw [Signal.stirs, hnews, Bool.true_or])

theorem due_of_isDropped {outcome : Outcome} {ends : ℕ} (hp : p.phase = .pausing outcome ends)
    (hdropped : p.signal.isDropped = true) : p.due = some 0 := by
  rw [due, hp]
  exact if_pos (by rw [Signal.stirs, hdropped, Bool.or_true])

/-- A clock without jumps stands while the processor has something to do at once. -/
theorem Moment.IsPunctual.eq_now {target : ℕ}
    (hs : Moment.IsPunctual clock ⟨p, now, .passed target⟩) (hnow : clock.IsClosed now)
    (htarget : now ≤ target) (hdue : p.due = some 0) : target = now :=
  le_antisymm (((hs target rfl).2 0 hdue).trans (Clock.le_closed hnow (Nat.zero_le _))) htarget

theorem Run.trans {q' : Processor} {u' : ℕ} {h' : List Moment} (r : Run p t h q u)
    (r' : Run q u h' q' u') : Run p t (h' ++ h) q' u' := by
  induction r' with
  | start => exact r
  | wake _ hdue hd hgo random ih => exact ih.wake hdue hd hgo random
  | pass _ htarget ih => exact ih.pass htarget
  | send _ hheld value ih => exact ih.send hheld value
  | drop _ ih => exact ih.drop

theorem follows_of_proceeds (h : (p.wake session now).Proceeds atOnce now l (.done q) now) :
    Follows now p q :=
  (wake_meets_follows p session now).of_proceeds h

theorem Run.settings_eq (r : Run p t h q u) : q.settings = p.settings ∧ q.job = p.job := by
  induction r with
  | start => exact ⟨rfl, rfl⟩
  | wake _ _ _ hgo _ ih =>
    have hkept : ∀ {p q : Processor} {now}, Follows now p q →
        q.settings = p.settings ∧ q.job = p.job := fun hf => by cases hf <;> exact ⟨rfl, rfl⟩
    obtain ⟨hsettings, hjob⟩ := hkept (follows_of_proceeds hgo)
    exact ⟨hsettings.trans ih.1, hjob.trans ih.2⟩
  | pass _ _ ih => exact ih
  | send _ _ _ ih => exact ih
  | drop _ ih => exact ih

theorem Run.isClosed (r : Run p t h q u) (ht : clock.IsClosed t)
    (hpunctual : ∀ s ∈ h, s.IsPunctual clock) : clock.IsClosed u := by
  induction r with
  | start => exact ht
  | pass _ _ ih =>
    rw [List.forall_mem_cons] at hpunctual
    exact (hpunctual.1 _ rfl).1
  | _ => grind

end Rollcall.Processor
