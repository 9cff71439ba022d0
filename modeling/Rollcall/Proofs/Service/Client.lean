import Rollcall.Cluster
import Rollcall.Proofs.Http.Exchange
import Rollcall.Proofs.Retry
import Rollcall.Proofs.Url.Authority
import Rollcall.Service.Client

/-!
# What a client of a service sends

A client asks the registry once. If that gives it an instance, a write is one request to that
instance, whatever comes back; a read is the same request again and again until a reply is not worth
another attempt or the attempts are used up, and that reply alone decides what the client is told.
-/

namespace Rollcall

open Http

namespace Connection

/-- The address is that of a server to which requests can be sent. -/
def FormsUrl (creds : Credentials) (target : String) : Prop :=
  ∃ u, Url.read ((ofTarget target creds).base ++ "/") = .ok u ∧ canSend u

/-- The request goes to the server at the address. -/
def LeadsTo (creds : Credentials) (target : String) (r : Request) : Prop :=
  ∃ u, Url.read ((ofTarget target creds).base ++ "/") = .ok u ∧
    r.url.scheme = u.scheme ∧ r.url.host = u.host ∧ r.url.port = u.port

theorem scheme_cases (creds : Credentials) : creds.scheme = "http" ∨ creds.scheme = "https" := by
  unfold Credentials.scheme
  split
  · exact .inr rfl
  · exact .inl rfl

theorem canSend_of_origin {u u' : Url} (h : u'.origin = u.origin) : canSend u' = canSend u := by
  obtain ⟨hscheme, hhost, -⟩ := Url.server_of_origin h
  unfold canSend
  rw [hscheme, hhost]

theorem read_url {creds : Credentials} {target : String} (h : FormsUrl creds target)
    (path : String) : ∃ u u', Url.read ((ofTarget target creds).base ++ "/") = .ok u ∧
      Url.read ((ofTarget target creds).url path) = .ok u' ∧ u'.origin = u.origin ∧
      canSend u' := by
  obtain ⟨u, hread, hsend⟩ := h
  obtain ⟨u', hread', horigin⟩ :=
    Url.read_below (scheme_cases creds) hread (Text.dropLeading '/' path)
  exact ⟨u, u', hread, hread', horigin, (canSend_of_origin horigin).trans hsend⟩

def verdict (u : Url) (d : Delivery) : Except Error Document :=
  ((d.outcome u).bind (check u)).bind decode

theorem getJson_eq {creds : Credentials} {target : String} (h : FormsUrl creds target)
    (path : String) (query : List (String × String)) :
    ∃ r, r.method = .get ∧ LeadsTo creds target r ∧
      (ofTarget target creds).getJson path query =
        .ask r fun (d : Delivery) => .done (verdict r.url d) := by
  obtain ⟨u, u', hread, hread', horigin, hsend⟩ := read_url h path
  have hserver := Url.server_of_origin horigin
  refine ⟨({ method := .get, url := u'.withParameters query } : Request).onWire, rfl,
    ⟨u, hread, hserver⟩, ?_⟩
  unfold getJson request
  rw [hread']
  dsimp only
  rw [send_eq hsend]
  rfl

theorem putJson_eq {creds : Credentials} {target : String} (h : FormsUrl creds target)
    (path : String) (body : Document) :
    ∃ r, r.method = .put ∧ r.body = some (.json body) ∧ LeadsTo creds target r ∧
      ((ofTarget target creds).putJson path body).AsksOnce r := by
  obtain ⟨u, u', hread, hread', horigin, hsend⟩ := read_url h path
  have hserver := Url.server_of_origin horigin
  refine ⟨({ method := .put, url := u', body := some (.json body) } : Request).onWire, rfl, rfl,
    ⟨u, hread, hserver⟩, ?_⟩
  unfold putJson request
  rw [hread']
  dsimp only
  rw [send_eq hsend]
  exact ⟨_, rfl⟩

/-- A reply that arrives whole and reports success, but is no document, is a failure for good. -/
theorem verdict_of_undecodable {u : Url} {r : Reply} {bytes : List UInt8}
    (hsuccess : r.status.isSuccess = true) (hread : r.read = .ok bytes)
    (hbytes : (String.fromUTF8? ⟨bytes.toArray⟩).bind Json.read = none) :
    ∃ e, verdict u (.replied r) = .error e ∧ e.isRetryable = false := by
  refine ⟨.transportFailure, ?_, rfl⟩
  have hcheck : check u r = .ok r := if_pos hsuccess
  have hdecode : decode r = .error .transportFailure := by
    unfold decode
    simp only [hread, bind, Except.bind, hbytes]
  unfold verdict Delivery.outcome
  change ((check u r).bind decode) = _
  rw [hcheck]
  exact hdecode

end Connection

namespace ServiceClient

/-- What a client meets: the answers of the registry, the lots that are drawn, and the deliveries of
its requests, one after the other. -/
structure Surroundings where
  call : (c : Call) → c.Outcome
  lot : (more : ℕ) → Fin (more + 1)
  delivery : ℕ → Delivery

/-- What a client has done, in order. -/
structure Trace where
  calls : List Call := []
  requests : List Request := []

def answer (w : Surroundings) : (op : Step) → Trace → Answer op × Trace
  | .work (.call c), t => (w.call c, { t with calls := t.calls ++ [c] })
  | .work (.choose more), t => (w.lot more, t)
  | .work (.mark _ _), t => ((), t)
  | .send r, t => (w.delivery t.requests.length, { t with requests := t.requests ++ [r] })

def carryOn {α : Type} (w : Surroundings) (p : Plan Talk α) (t : Trace) : α × Trace :=
  p.run (answer w) (fun _ t => t) t

def carryOut {α : Type} (w : Surroundings) (p : Plan Talk α) : α × Trace := carryOn w p {}

/-- What a service is resolved to. -/
def resolution (w : Surroundings) (service : String) : Except Error String :=
  (carryOut w (ofWork (Resolver.resolve service))).1

variable {w : Surroundings} {c : ServiceClient}

theorem carryOn_bind {α β : Type} (p : Plan Talk α) (f : α → Plan Talk β) (t : Trace) :
    carryOn w (p.bind f) t = carryOn w (f (carryOn w p t).1) (carryOn w p t).2 :=
  Plan.run_bind _ _ p f t

/-- The registry is asked once, whatever it answers, and what it answers is chosen from. -/
theorem carryOut_resolve (w : Surroundings) (service : String) :
    carryOut w (ofWork (Resolver.resolve service)) =
        (resolution w service, ⟨[.addresses service], []⟩) ∧
      ∀ a, resolution w service = .ok a →
        ∃ live, w.call (.addresses service) = .ok live ∧ a ∈ live := by
  unfold resolution carryOut carryOn ofWork Resolver.resolve
  simp only [Plan.interpret, Plan.bind, Plan.run, answer]
  rcases w.call (.addresses service) with e | live
  · refine ⟨rfl, ?_⟩
    intro a ha
    cases ha
  cases live with
  | nil =>
    refine ⟨rfl, ?_⟩
    intro a ha
    cases ha
  | cons first rest =>
    refine ⟨rfl, ?_⟩
    intro a ha
    have hchosen : (first :: rest).get ((w.lot rest.length).cast (by simp)) = a :=
      Except.ok.inj ha
    exact ⟨first :: rest, rfl, hchosen ▸ List.get_mem _ _⟩

theorem carryOut_connect (w : Surroundings) (c : ServiceClient) :
    carryOut w c.connect =
      ((resolution w c.service).map fun target => .ofTarget target c.credentials,
        ⟨[.addresses c.service], []⟩) := by
  unfold connect carryOut
  rw [carryOn_bind]
  change carryOn w _ (carryOut w (ofWork (Resolver.resolve c.service))).2 = _
  rw [(carryOut_resolve w c.service).1]
  rfl

theorem carryOut_connect_bind {α : Type} (w : Surroundings) (c : ServiceClient)
    (f : Except Error Connection → Plan Talk α) : carryOut w (c.connect.bind f) =
      carryOn w (f ((resolution w c.service).map fun target => .ofTarget target c.credentials))
        ⟨[.addresses c.service], []⟩ := by
  unfold carryOut
  rw [carryOn_bind]
  change carryOn w (f (carryOut w c.connect).1) (carryOut w c.connect).2 = _
  rw [carryOut_connect]

theorem carryOn_exchange {α : Type} (w : Surroundings) (r : Request) (f : Delivery → α)
    (t : Trace) : carryOn w (ofExchange (.ask r fun d => .done (f d))) t =
      (f (w.delivery t.requests.length), { t with requests := t.requests ++ [r] }) := rfl

variable {path : String} {query : List (String × String)} {body : Document} {e : Error}
  {target : String}

theorem carryOut_put_of_error (h : resolution w c.service = .error e) :
    carryOut w (c.put path body) = (.error e, ⟨[.addresses c.service], []⟩) := by
  unfold put
  rw [carryOut_connect_bind, h]
  rfl

theorem carryOut_put_of_ok (h : resolution w c.service = .ok target) :
    carryOut w (c.put path body) =
      carryOn w (ofExchange ((Connection.ofTarget target c.credentials).putJson path body))
        ⟨[.addresses c.service], []⟩ := by
  unfold put
  rw [carryOut_connect_bind, h]
  rfl

theorem carryOut_get_of_error (h : resolution w c.service = .error e) :
    carryOut w (c.get path query) = (.error e, ⟨[.addresses c.service], []⟩) := by
  unfold get
  rw [carryOut_connect_bind, h]
  rfl

theorem carryOut_get_of_ok (h : resolution w c.service = .ok target) :
    carryOut w (c.get path query) =
      carryOn w (c.retry.run fun _ =>
        ofExchange ((Connection.ofTarget target c.credentials).getJson path query))
        ⟨[.addresses c.service], []⟩ := by
  unfold get
  rw [carryOut_connect_bind, h]
  rfl

/-- Attempts at one exchange are the same request again, the last one deciding. -/
theorem carryOn_retry (w : Surroundings) (p : RetryPolicy) (r : Request)
    (f : Delivery → Except Error Document) (calls : List Call) :
    ∃ k, p.IsLast (fun j => f (w.delivery j)) k ∧
      carryOn w (p.run fun _ => ofExchange (.ask r fun d => .done (f d))) ⟨calls, []⟩ =
        (f (w.delivery k), ⟨calls, List.replicate (k + 1) r⟩) := by
  let attempt (_ : ℕ) : Plan Talk (Except Error Document) :=
    ofExchange (.ask r fun d => .done (f d))
  have hstate : ∀ j, RetryPolicy.stateAt p.interval attempt (answer w) (fun _ t => t)
      ⟨calls, []⟩ j = ⟨calls, List.replicate j r⟩ := by
    intro j
    induction j with
    | zero => rfl
    | succ j ih =>
      change (carryOn w (attempt j) (RetryPolicy.stateAt p.interval attempt _ _ _ j)).2 = _
      rw [ih, carryOn_exchange, List.replicate_succ']
  have hattempt : ∀ j, RetryPolicy.attemptAt p.interval attempt (answer w) (fun _ t => t)
      ⟨calls, []⟩ j = (f (w.delivery j), ⟨calls, List.replicate (j + 1) r⟩) := by
    intro j
    change carryOn w (attempt j) (RetryPolicy.stateAt p.interval attempt _ _ _ j) = _
    rw [hstate, carryOn_exchange, List.length_replicate, List.replicate_succ']
  obtain ⟨k, hlast, hrun⟩ :=
    RetryPolicy.run_run attempt (answer w) (fun _ t => t) ⟨calls, []⟩ p
  simp only [hattempt] at hlast
  exact ⟨k, hlast, hrun.trans (hattempt k)⟩

/-- A write is sent once, a read until a reply is not worth another attempt or the attempts are
used up, always to one live instance; nothing is sent if there is none. -/
theorem sends_of_put_of_get (w : Surroundings) (c : ServiceClient)
    (hlive : ∀ live, w.call (.addresses c.service) = .ok live →
      ∀ a ∈ live, Connection.FormsUrl c.credentials a)
    (path : String) (query : List (String × String)) (body : Document) :
    (∀ target, resolution w c.service = .ok target →
      ∃ live, w.call (.addresses c.service) = .ok live ∧ target ∈ live) ∧
    (∀ e, resolution w c.service = .error e →
      carryOut w (c.put path body) = (.error e, ⟨[.addresses c.service], []⟩) ∧
      carryOut w (c.get path query) = (.error e, ⟨[.addresses c.service], []⟩)) ∧
    ∀ target, resolution w c.service = .ok target →
      (∃ r, r.method = .put ∧ r.body = some (.json body) ∧ Connection.LeadsTo c.credentials target r ∧
        (carryOut w (c.put path body)).2 = ⟨[.addresses c.service], [r]⟩) ∧
      ∃ r k, r.method = .get ∧ Connection.LeadsTo c.credentials target r ∧
        c.retry.IsLast (fun j => Connection.verdict r.url (w.delivery j)) k ∧
        carryOut w (c.get path query) = (Connection.verdict r.url (w.delivery k),
          ⟨[.addresses c.service], List.replicate (k + 1) r⟩) ∧
        ∀ reply bytes, reply.status.isSuccess = true → reply.read = .ok bytes →
          (String.fromUTF8? ⟨bytes.toArray⟩).bind Json.read = none →
          ∃ e, Connection.verdict r.url (.replied reply) = .error e ∧ e.isRetryable = false := by
  have hresolved := (carryOut_resolve w c.service).2
  refine ⟨hresolved, ?_, ?_⟩
  · intro e h
    exact ⟨carryOut_put_of_error h, carryOut_get_of_error h⟩
  · intro target h
    obtain ⟨live, hcall, hmem⟩ := hresolved target h
    have hforms := hlive live hcall target hmem
    constructor
    · obtain ⟨r, hmethod, hbody, hleads, f, hput⟩ := Connection.putJson_eq hforms path body
      refine ⟨r, hmethod, hbody, hleads, ?_⟩
      rw [carryOut_put_of_ok h, hput, carryOn_exchange]
      rfl
    · obtain ⟨r, hmethod, hleads, hget⟩ := Connection.getJson_eq hforms path query
      obtain ⟨k, hlast, hrun⟩ := carryOn_retry w c.retry r (Connection.verdict r.url)
        [.addresses c.service]
      refine ⟨r, k, hmethod, hleads, hlast, ?_, ?_⟩
      · rw [carryOut_get_of_ok h, hget, hrun]
      · intro reply bytes
        exact Connection.verdict_of_undecodable

def lonely : Cluster :=
  { registry := ((Registry.withWindow 5).register 0 ⟨"rating-1"⟩ "rating" "localhost:9000").2 }

/-- One live instance that refuses the first request and breaks off at every later one. -/
def flakyInstance : Surroundings where
  call c := (Backend.perform lonely 0 c).1
  lot more := ⟨0, more.succ_pos⟩
  delivery n := [Delivery.refused].getD n .dropped

theorem sends_of_flaky : ∃ r r',
    (carryOut flakyInstance ((⟨"rating", .insecure, .standard⟩ : ServiceClient).put "v1" .null)).2 =
      ⟨[.addresses "rating"], [r]⟩ ∧
    (carryOut flakyInstance ((⟨"rating", .insecure, .standard⟩ : ServiceClient).get "v1" [])).2 =
      ⟨[.addresses "rating"], [r', r']⟩ := by
  have hforms : Connection.FormsUrl .insecure "localhost:9000" := by
    have hbase : (Connection.ofTarget "localhost:9000" .insecure).base ++ "/" =
        "http://localhost:9000/" := rfl
    have hread : Url.read "http://localhost:9000/" =
        .ok ⟨"http", "", "", some "localhost", some 9000, .segments [""], none, none⟩ := by cbv
    unfold Connection.FormsUrl
    rw [hbase]
    exact ⟨_, hread, by decide⟩
  have hlive : ∀ live, flakyInstance.call (.addresses "rating") = .ok live →
      ∀ a ∈ live, Connection.FormsUrl .insecure a := by
    intro live h a ha
    cases h
    rw [List.mem_singleton.mp ha]
    exact hforms
  obtain ⟨-, -, hsends⟩ := sends_of_put_of_get flakyInstance ⟨"rating", .insecure, .standard⟩ hlive
    "v1" [] .null
  obtain ⟨⟨r, -, -, -, hput⟩, r', k, -, -, hlast, hget, -⟩ := hsends "localhost:9000" rfl
  have hk : k = 1 := by
    refine hlast.unique ⟨by decide, ?_, .inl rfl⟩
    intro j hj
    rw [Nat.lt_one_iff.mp hj]
    rfl
  subst hk
  exact ⟨r, r', hput, congrArg Prod.snd hget⟩

end ServiceClient

end Rollcall
