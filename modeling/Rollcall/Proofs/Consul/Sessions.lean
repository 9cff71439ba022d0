import Rollcall.Consul.Agent
import Rollcall.Lock.Provider
import Rollcall.Proofs.Consul.Entries
import Rollcall.Proofs.Consul.Operations

/-!
# What a reply means to a lock provider

To take a key is one request, and the reply says yes, says no, or says neither and is an error. To
give a key back is one request to the same path, with the session that took it. To renew a session
is one request, and one more if the agent does not know the session: that for a new one, which takes
the place of the old one if the reply names it.
-/

namespace Rollcall.Consul

open Http Client

variable {s : AgentSettings} {c : Client} {d : Delivery} {u : Url} {x : Document}

/-- The reply reports success, and this is the document in it. -/
def Says (d : Delivery) (x : Document) : Prop :=
  ∃ r, d = .replied r ∧ r.status.isSuccess = true ∧ decode r = .ok x

/-- The agent does not know what it was asked about. -/
def IsUnknown (d : Delivery) : Prop := ∃ r, d = .replied r ∧ r.status.code = 404

/-- The document names a session: in the one field for it, or alone in a list. -/
inductive NamesSession : Document → SessionId → Prop
  | table {fields : List (String × Document)} {text : String}
      (h : Bears fields "ID" (.text text)) : NamesSession (.table fields) ⟨text⟩
  | list (text : String) : NamesSession (.list [.text text]) ⟨text⟩

/-- The agent has created a session. -/
def Grants (d : Delivery) (session : SessionId) : Prop := ∃ x, Says d x ∧ NamesSession x session

theorem sessionOfDocument_eq_some_iff {session : SessionId} :
    sessionOfDocument x = some session ↔ NamesSession x session := by
  constructor
  · intro h
    unfold sessionOfDocument at h
    split at h
    · split at h
      · next hfield =>
        cases h
        exact .table (uniqueField_eq_some_iff.mp hfield)
      · cases h
    · cases h
      exact .list _
    · cases h
  · intro h
    cases h with
    | table h => simp [sessionOfDocument, uniqueField_eq_some_iff.mpr h]
    | list text => rfl

theorem Grants.unique {session session' : SessionId} (h : Grants d session)
    (h' : Grants d session') : session = session' := by
  obtain ⟨x, ⟨r, rfl, -, hx⟩, hnames⟩ := h
  obtain ⟨x', ⟨r', hr, -, hx'⟩, hnames'⟩ := h'
  cases hr
  cases hx.symm.trans hx'
  rw [← sessionOfDocument_eq_some_iff] at hnames hnames'
  exact Option.some.inj (hnames.symm.trans hnames')

theorem boolOfDocument_eq_some_iff {b : Bool} : boolOfDocument x = some b ↔ x = .bool b := by
  unfold boolOfDocument
  split
  · simp
  · next hne =>
    simp only [reduceCtorEq, false_iff]
    exact hne b

theorem decoded_eq_ok_iff : (received u d).bind decode = .ok x ↔ Says d x := by
  constructor
  · intro h
    cases hr : received u d with
    | error e =>
      rw [hr] at h
      cases h
    | ok r =>
      rw [hr] at h
      obtain ⟨hd, hsuccess⟩ := received_eq_ok_iff.mp hr
      exact ⟨r, hd, hsuccess, h⟩
  · rintro ⟨r, hd, hsuccess, hx⟩
    rw [received_eq_ok_iff.mpr ⟨hd, hsuccess⟩]
    exact hx

theorem readAs_eq_ok_iff {α : Type} {f : Document → Option α} {a : α} :
    readAs f ((received u d).bind decode) = .ok a ↔ ∃ x, Says d x ∧ f x = some a := by
  simp only [← decoded_eq_ok_iff (u := u)]
  unfold readAs
  cases (received u d).bind decode with
  | error e => simp
  | ok x =>
    cases hf : f x with
    | none => simp [hf]
    | some b => simp [hf]

theorem readAs_bool_iff {b : Bool} :
    readAs boolOfDocument ((received u d).bind decode) = .ok b ↔ Says d (.bool b) := by
  simp [readAs_eq_ok_iff, boolOfDocument_eq_some_iff]

theorem readAs_session_iff {session : SessionId} :
    readAs sessionOfDocument ((received u d).bind decode) = .ok session ↔ Grants d session := by
  simp [readAs_eq_ok_iff, sessionOfDocument_eq_some_iff, Grants]

theorem kind_of_received {e : Error} (h : received u d = .error e) :
    e.kind = .notFound ↔ IsUnknown d := by
  unfold received check at h
  cases d with
  | replied r =>
    change (if r.status.isSuccess = true then _ else _) = _ at h
    split_ifs at h
    cases h
    simp [IsUnknown, Status.errorKind_eq_notFound_iff]
  | refused =>
    cases h
    simp [IsUnknown, Error.kind]
  | dropped =>
    cases h
    simp [IsUnknown, Error.transportFailure, Error.kind]
  | silent =>
    cases h
    simp [IsUnknown, Error.kind]

def keyMessage (c : Client) (verb : String) (g : LockGuard) : Request :=
  c.message .put (keyPath g.key) (some [(verb, g.session.text)]) (some (.bytes lockValue))

theorem putRaw_relays (h : c.Sends) (verb : String) (g : LockGuard) :
    (c.putRaw (keyPath g.key) [(verb, g.session.text)] lockValue).Relays (keyMessage c verb g)
      fun (d : Delivery) => (received (keyMessage c verb g).url d).bind decode :=
  fetch_eq h (isVersioned_keyPath g.key)

def attempt (s : AgentSettings) (g : LockGuard) :
    Plan Exchange (Except Error (Option LockGuard)) :=
  (LockProvider.acquire g.key g.session).interpret s.plan

def giveBack (s : AgentSettings) (g : LockGuard) : Plan Exchange (Except Error Unit) :=
  g.release.interpret s.plan

/-- A key is taken if the agent says so, is held by somebody else if the agent says so, and any
other delivery is an error. -/
theorem attempt_relays (h : s.client.Sends) (g : LockGuard) : ∃ f,
    (attempt s g).Relays (keyMessage s.client "acquire" g) f ∧
    ∀ d : Delivery, (f d = .ok (some g) ↔ Says d (.bool true)) ∧
      (f d = .ok none ↔ Says d (.bool false)) ∧ ∀ g', f d = .ok (some g') → g' = g := by
  have hraw := ((putRaw_relays h "acquire" g).bind (readAs boolOfDocument)).bind
    fun r => r.map fun won => if won = true then some g else none
  refine ⟨_, hraw, ?_⟩
  intro d
  simp only [← readAs_bool_iff (u := (keyMessage s.client "acquire" g).url)]
  cases readAs boolOfDocument _ with
  | error e => simp [Except.map]
  | ok won => cases won <;> simp [Except.map]

theorem return_relays (h : s.client.Sends) (g : LockGuard) :
    ∃ f, (giveBack s g).Relays (keyMessage s.client "release" g) f := by
  have hraw := ((putRaw_relays h "release" g).bind
    fun r => (readAs boolOfDocument r).map fun _ => ()).bind id
  exact ⟨_, hraw⟩

def renewalPath (session : SessionId) : String := "v1/session/renew/" ++ session.text

theorem isVersioned_renewalPath (session : SessionId) : IsVersioned (renewalPath session) :=
  IsVersioned.append ⟨"session/renew/".toList, rfl⟩ _

def renewalMessage (c : Client) (session : SessionId) : Request :=
  c.message .put (renewalPath session) none none

theorem renewSession_eq (h : c.Sends) (session : SessionId) :
    renewSession c session = .ask (renewalMessage c session) fun (d : Delivery) =>
      .done ((received (renewalMessage c session).url d).map fun _ => ()) :=
  put_eq h (isVersioned_renewalPath session)

def ticked (p : LockProvider) (now : ℕ) (session : SessionId) : LockProvider :=
  { p with session, ticker := p.ticker.advance now }

/-- What is left of a renewal once the session has turned out to be unknown: to ask for another, and
to have it if the reply names it. -/
def IsReplacement (s : AgentSettings) (p : LockProvider) (now : ℕ)
    (rest : Plan Exchange LockProvider) : Prop :=
  ∃ next, rest = .ask (sessionMessage s.client s.sessionName p.ttl) next ∧
    ∀ d : Delivery, (∀ session, Grants d session → next d = .done (ticked p now session)) ∧
      ((∀ session, ¬ Grants d session) → next d = .done (ticked p now p.session))

theorem IsReplacement.over {p : LockProvider} {now : ℕ} {rest : Plan Exchange LockProvider}
    (h : IsReplacement s p now rest) :
    ∃ next, rest = .ask (sessionMessage s.client s.sessionName p.ttl) next ∧
      ∀ d : Delivery, ∃ session, next d = .done (ticked p now session) := by
  obtain ⟨next, rfl, hnext⟩ := h
  refine ⟨next, rfl, fun d => ?_⟩
  by_cases hgrants : ∃ session, Grants d session
  · obtain ⟨session, hgrants⟩ := hgrants
    exact ⟨session, (hnext d).1 session hgrants⟩
  · exact ⟨_, (hnext d).2 (not_exists.mp hgrants)⟩

/-- A renewal: to ask for it, and to keep the session unless it is unknown. -/
def IsRenewal (s : AgentSettings) (p : LockProvider) (now : ℕ)
    (rest : Plan Exchange LockProvider) : Prop :=
  ∃ next, rest = .ask (renewalMessage s.client p.session) next ∧
    ∀ d : Delivery, (¬ IsUnknown d → next d = .done (ticked p now p.session)) ∧
      (IsUnknown d → IsReplacement s p now (next d))

theorem isReplacement_createSession (h : s.client.Sends) (p : LockProvider) (now : ℕ) :
    IsReplacement s p now ((createSession s.client s.sessionName p.ttl).bind fun r =>
      .done (ticked p now (match r with | .ok fresh => fresh | .error _ => p.session))) := by
  rw [createSession_eq h]
  refine ⟨_, rfl, fun d => ⟨?_, ?_⟩⟩
  · intro session hgrants
    have hread := readAs_session_iff (u := (sessionMessage s.client s.sessionName p.ttl).url).mpr
      hgrants
    simp only [Plan.bind, hread]
  · intro hnone
    cases hread : readAs sessionOfDocument
        ((received (sessionMessage s.client s.sessionName p.ttl).url d).bind decode) with
    | ok session => exact absurd (readAs_session_iff.mp hread) (hnone session)
    | error e => simp only [Plan.bind, hread]

theorem isRenewal_tick (h : s.client.Sends) (p : LockProvider) (now : ℕ) :
    IsRenewal s p now ((p.tick now).interpret s.plan) := by
  have hreplace := isReplacement_createSession h p now
  unfold LockProvider.tick LockProvider.renewSession
  simp only [Plan.bind, Plan.interpret]
  change IsRenewal s p now ((renewSession s.client p.session).bind _)
  rw [renewSession_eq h]
  refine ⟨_, rfl, fun d => ?_⟩
  cases hr : received (renewalMessage s.client p.session).url d with
  | ok r =>
    obtain ⟨hd, hsuccess⟩ := received_eq_ok_iff.mp hr
    refine ⟨fun _ => ?_, ?_⟩
    · simp only [Plan.bind, hr]
      rfl
    · rintro ⟨r', hd', hcode⟩
      cases hd.symm.trans hd'
      exact absurd hcode (Status.isSuccess_ne_404 hsuccess)
  | error e =>
    have hkind := kind_of_received hr
    refine ⟨fun hknown => ?_, fun hunknown => ?_⟩
    · simp only [Plan.bind, hr, Except.map, if_neg (mt hkind.mp hknown)]
      rfl
    · simp only [Plan.bind, hr, Except.map, if_pos (hkind.mpr hunknown)]
      exact hreplace

end Rollcall.Consul
