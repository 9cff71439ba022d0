import Rollcall.Consul.Client
import Rollcall.Proofs.Http.Exchange
import Rollcall.Proofs.Url.Reference

/-!
# The requests of a client

A client whose base is one that requests can be sent to sends one request for each operation, to a
path below its base, and the delivery of that request alone decides the result.
-/

namespace Rollcall.Consul.Client

open Http

/-- Requests below the base of the client can be sent. -/
structure Sends (c : Client) : Prop where
  canSend_base : canSend c.base
  hasPath : ∃ l, c.base.path = .segments l

/-- The path is one of the agent's interface, whatever comes after the version. -/
def IsVersioned (path : String) : Prop := ∃ rest, path.toList = ['v', '1', '/'] ++ rest

theorem IsVersioned.append {front : String} (h : IsVersioned front) (name : String) :
    IsVersioned (front ++ name) := by
  obtain ⟨rest, hrest⟩ := h
  exact ⟨rest ++ name.toList, by rw [String.toList_append, hrest, List.append_assoc]⟩

def url (c : Client) (path : String) (query : Option (List (String × String))) : Url :=
  let u := c.base.relative (Url.clean path)
  match query with
  | none => u
  | some pairs => u.withParameters pairs

def message (c : Client) (method : Method) (path : String)
    (query : Option (List (String × String))) (body : Option Body) : Request :=
  ({ method, url := c.url path query, body } : Request).onWire

variable {c : Client} {method : Method} {path : String}
  {query : Option (List (String × String))} {body : Option Body}

theorem decodedPath_message : (c.message method path query body).url.decodedPath =
    (c.base.relative (Url.clean path)).decodedPath := by
  cases query <;> rfl

theorem canSend_url (h : c.Sends) : canSend (c.url path query) := by
  cases query <;> exact h.canSend_base

theorem IsVersioned.dropLeading (hp : IsVersioned path) : Text.dropLeading '/' path = path := by
  obtain ⟨rest, hrest⟩ := hp
  unfold Text.dropLeading
  rw [hrest, List.cons_append, List.dropWhile_cons_of_neg (by decide), ← List.cons_append,
    ← hrest, String.ofList_toList]

theorem IsVersioned.clean (hp : IsVersioned path) :
    ∃ rest, Url.clean path = ['v', '1'] ++ '/' :: rest := by
  obtain ⟨rest, hrest⟩ := hp
  rw [← String.ofList_toList (s := path), hrest]
  exact ⟨_, Url.clean_append (List.cons_ne_nil _ _) (by decide) (by decide) rest⟩

theorem version_isSchemeChar : ∀ ch ∈ ['v', '1'], Url.isSchemeChar ch = true := by
  simp [Url.isSchemeChar]

theorem endpoint_eq {l : List String} (hl : c.base.path = .segments l) (hp : IsVersioned path) :
    c.endpoint path = .ok (c.base.relative (Url.clean path)) := by
  obtain ⟨rest, hclean⟩ := hp.clean
  unfold endpoint
  rw [hp.dropLeading,
    Url.join_eq_relative hl (List.cons_ne_nil _ _) version_isSchemeChar hclean]

/-- What a delivery is worth to a client: a reply that reports success, or else an error. -/
def received (u : Url) (d : Delivery) : Except Error Reply := (d.outcome u).bind check

theorem received_eq_ok_iff {u : Url} {d : Delivery} {r : Reply} :
    received u d = .ok r ↔ d = .replied r ∧ r.status.isSuccess = true := by
  unfold received
  cases d with
  | replied reply =>
    simp only [Delivery.outcome, Except.bind, check, Delivery.replied.injEq]
    split
    · next hs =>
      rw [Except.ok.injEq]
      exact ⟨fun h => ⟨h, h ▸ hs⟩, And.left⟩
    · next hs => exact ⟨nofun, fun h => absurd (h.1 ▸ h.2) hs⟩
  | refused => exact ⟨nofun, nofun⟩
  | dropped => exact ⟨nofun, nofun⟩
  | silent => exact ⟨nofun, nofun⟩

/-- A client sends the request for a path and checks what comes back. -/
theorem request_eq (h : c.Sends) (hp : IsVersioned path) :
    c.request method path query body = .ask (c.message method path query body)
      fun (d : Delivery) => .done (received (c.message method path query body).url d) := by
  obtain ⟨l, hl⟩ := h.hasPath
  unfold request
  rw [endpoint_eq hl hp]
  change (send { method, url := c.url path query, body }).bind _ = _
  rw [send_eq (canSend_url h)]
  rfl

theorem request_of_not_canSend (h : canSend c.base = false) (hp : IsVersioned path) :
    ∃ e, c.request method path query body = .done (.error e) := by
  unfold request
  cases hpath : c.base.path with
  | segments l =>
    have hsend : canSend (c.url path query) = false := by
      rw [← h]
      cases query <;> rfl
    rw [endpoint_eq hpath hp]
    change ∃ e, (send { method, url := c.url path query, body }).bind _ = _
    unfold send
    rw [if_neg (Bool.eq_false_iff.mp hsend)]
    exact ⟨_, rfl⟩
  | opaqueText text =>
    obtain ⟨rest, hclean⟩ := hp.clean
    unfold endpoint
    rw [hp.dropLeading,
      Url.join_of_opaque hpath (List.cons_ne_nil _ _) version_isSchemeChar hclean]
    exact ⟨_, rfl⟩

theorem fetch_eq (h : c.Sends) (hp : IsVersioned path) {pairs : List (String × String)} :
    c.fetch method path pairs body = .ask (c.message method path (some pairs) body)
      fun (d : Delivery) =>
        .done ((received (c.message method path (some pairs) body).url d).bind decode) := by
  unfold fetch
  rw [request_eq h hp]
  rfl

theorem put_eq (h : c.Sends) (hp : IsVersioned path) {document : Option Document} :
    c.put path document = .ask (c.message .put path none (document.map .json))
      fun (d : Delivery) =>
        .done ((received (c.message .put path none (document.map .json)).url d).map
          fun _ => ()) := by
  unfold put
  rw [request_eq h hp]
  rfl

def HasBody (body : Option Document) (r : Request) : Prop := r.body = body.map .json

theorem request_asksOnly (c : Client) (method : Method) (path : String)
    (query : Option (List (String × String))) (body : Option Document) :
    (c.request method path query (body.map .json)).AsksOnly (HasBody body) := by
  unfold Client.request
  split
  · exact .done _ _
  · apply Plan.AsksOnly.map_done
    unfold send
    split_ifs
    · exact ⟨rfl, fun _ => trivial⟩
    · exact .done _ _

theorem put_asksOnly (c : Client) (path : String) (body : Option Document) :
    (c.put path body).AsksOnly (HasBody body) := by
  unfold Client.put
  exact (c.request_asksOnly .put path none body).map_done _

theorem putJson_asksOnly (c : Client) (path : String)
    (query : List (String × String)) (body : Option Document) :
    (c.putJson path query body).AsksOnly (HasBody body) := by
  unfold Client.putJson Client.fetch
  exact (c.request_asksOnly .put path (some query) body).map_done _

def onThisHost : Client :=
  ⟨{ scheme := "http", host := some "localhost", port := some 8500, path := .segments [""] }⟩

theorem sends_onThisHost : onThisHost.Sends := ⟨by decide, _, rfl⟩

end Rollcall.Consul.Client
