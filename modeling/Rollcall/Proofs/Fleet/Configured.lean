import Rollcall.Backend
import Rollcall.Fleet.App
import Rollcall.Http.Script
import Rollcall.Proofs.Config.Validity
import Rollcall.Proofs.Consul.Operations
import Rollcall.Proofs.Url.Authority

/-!
# Starting what was configured

An app starts if its instance is registered and, in case its lock is enabled, a session is created.
In memory a valid configuration is enough for that. With an agent it takes more, of which the
validation of a configuration knows nothing: an address that requests can be sent to, and the
agent's consent to each of the two.
-/

namespace Rollcall

open Http

section Apps

variable {B : Type} [Backend B]

theorem Fleet.openLock_isOk_iff (f : Fleet B) (ttl : Nat) :
    (∃ n, (f.openLock ttl).1 = .ok n) ↔
      ∃ session, (Backend.perform f.backend f.now (.createSession ttl)).1 = .ok session := by
  have hcall : f.callAll (LockProvider.start f.now ttl) =
      (((f.perform (.createSession ttl)).1 : Except Error SessionId).map
        (LockProvider.holding f.now ttl), (f.perform (.createSession ttl)).2) := rfl
  have hoffer : (f.perform (.createSession ttl)).1 =
      (Backend.perform f.backend f.now (.createSession ttl)).1 := rfl
  unfold Fleet.openLock
  rw [hcall, hoffer]
  rcases (Backend.perform f.backend f.now (.createSession ttl)).1 with e | session
  · exact ⟨nofun, nofun⟩
  · exact ⟨fun _ => ⟨session, rfl⟩, fun _ => ⟨_, rfl⟩⟩

theorem Node.start_outcome (f : Fleet B) (id : InstanceId) (service address : String)
    (interval : Nat) :
    let registered := Backend.perform f.backend f.now (.register id service address)
    (∃ e g, registered.1 = .error e ∧ Node.start f id service address interval = (.error e, g)) ∨
      registered.1 = .ok () ∧ ∃ node g, g.backend = registered.2 ∧ g.now = f.now ∧
        Node.start f id service address interval = (.ok node, g) := by
  dsimp only
  unfold Node.start Fleet.perform Fleet.ask
  rcases Backend.perform f.backend f.now (.register id service address) with ⟨e | u, b⟩
  · exact .inl ⟨e, _, rfl, rfl⟩
  · refine .inr ⟨rfl, _, _, ?_, ?_, rfl⟩
    · rfl
    · rfl

/-- An app starts if it can register its instance and open its lock, should it have one. -/
theorem App.start_isOk_iff (f : Fleet B) (c : Config) (id : InstanceId) (random : RandomSource) :
    (∃ app, (App.start f c id random).1 = .ok app) ↔
      let registered := Backend.perform f.backend f.now
        (.register id c.node.serviceName c.node.advertiseAddress)
      registered.1 = .ok () ∧ (c.lock.enabled = true → ∃ session,
        (Backend.perform registered.2 f.now (.createSession c.sessionTtl)).1 = .ok session) := by
  dsimp only
  unfold App.start
  rcases Node.start_outcome f id c.node.serviceName c.node.advertiseAddress c.heartbeatInterval with
    ⟨e, g, hrefused, hstart⟩ | ⟨hregistered, node, g, hbackend, hnow, hstart⟩
  · rw [hstart, hrefused]
    exact ⟨nofun, nofun⟩
  rw [hstart, hregistered, ← hbackend, ← hnow, ← Fleet.openLock_isOk_iff]
  dsimp only
  split_ifs with henabled
  · rcases g.openLock c.sessionTtl with ⟨e | lock, g'⟩
    · exact ⟨nofun, fun h => nomatch h.2 henabled⟩
    · exact ⟨fun _ => ⟨rfl, fun _ => ⟨lock, rfl⟩⟩, fun _ => ⟨_, rfl⟩⟩
  · exact ⟨fun _ => ⟨rfl, fun h => absurd h henabled⟩, fun _ => ⟨_, rfl⟩⟩

end Apps

section Memory

variable {N : Type} [Network N]

theorem ConfiguredBackend.register_memory (m : Cluster) (now : Nat) (id : InstanceId)
    (service : String) {address : String} {a : HostPort} (ha : HostPort.read address = .ok a) :
    ∃ m', Backend.perform (ConfiguredBackend.memory m : ConfiguredBackend N) now
      (.register id service address) = (.ok (), .memory m') := by
  have hregister : ∃ registry, m.registry.register now id service address = (.ok (), registry) := by
    unfold Registry.register
    rw [ha]
    exact ⟨_, rfl⟩
  obtain ⟨registry, hregistry⟩ := hregister
  refine ⟨{ m with registry }, ?_⟩
  change (let r := m.registry.register now id service address
    (r.1, ConfiguredBackend.memory { m with registry := r.2 })) = _
  rw [hregistry]

theorem App.start_memory {f : Fleet (ConfiguredBackend N)} {m : Cluster}
    (hf : f.backend = .memory m) {c : Config} (hc : c.Valid) (id : InstanceId)
    (random : RandomSource) : ∃ app, (App.start f c id random).1 = .ok app := by
  obtain ⟨a, ha⟩ := hc.advertiseAddress
  obtain ⟨m', hregister⟩ :=
    ConfiguredBackend.register_memory (N := N) m f.now id c.node.serviceName ha
  rw [App.start_isOk_iff, hf, hregister]
  exact ⟨rfl, fun _ => ⟨_, rfl⟩⟩

end Memory

namespace Consul

def IsAccepted (d : Delivery) : Prop := ∃ r, d = .replied r ∧ r.status.isSuccess = true

/-- The agent has created a session and tells which. -/
def GivesSession (d : Delivery) : Prop :=
  ∃ r document session, d = .replied r ∧ r.status.isSuccess = true ∧
    Client.decode r = .ok document ∧ sessionOfDocument document = some session

theorem isAccepted_iff {u : Url} {d : Delivery} {explain : Error → Error} :
    (((Client.received u d).map fun _ => ()).mapError explain = .ok ()) ↔ IsAccepted d := by
  constructor
  · intro h
    cases hr : Client.received u d with
    | error e => rw [hr] at h; cases h
    | ok r => exact ⟨r, Client.received_eq_ok_iff.mp hr⟩
  · rintro ⟨r, hr⟩
    rw [Client.received_eq_ok_iff.mpr hr]
    rfl

theorem givesSession_iff {u : Url} {d : Delivery} :
    (∃ session, readAs sessionOfDocument ((Client.received u d).bind Client.decode) = .ok session) ↔
      GivesSession d := by
  constructor
  · rintro ⟨session, h⟩
    cases hr : Client.received u d with
    | error e => rw [hr] at h; cases h
    | ok r =>
      obtain ⟨hd, hsuccess⟩ := Client.received_eq_ok_iff.mp hr
      cases hdoc : Client.decode r with
      | error e => rw [hr, Except.bind, hdoc] at h; cases h
      | ok document =>
        rw [hr, Except.bind, hdoc, readAs] at h
        cases hs : sessionOfDocument document with
        | none => rw [hs] at h; cases h
        | some session => exact ⟨r, document, session, hd, hsuccess, hdoc, hs⟩
  · rintro ⟨r, document, session, hd, hsuccess, hdoc, hs⟩
    rw [Client.received_eq_ok_iff.mpr ⟨hd, hsuccess⟩, Except.bind, hdoc, readAs, hs]
    exact ⟨session, rfl⟩

variable {N : Type} [Network N] {s : AgentSettings}

theorem perform_register (h : s.client.Sends) (n : N) (now : Nat) (id : InstanceId)
    (service : String) {address : String} {a : HostPort} (ha : HostPort.read address = .ok a) :
    Backend.perform (ConfiguredBackend.consul ⟨s, n⟩) now (.register id service address) =
      let message := registrationMessage s.client s.registry id service a
      let sent := Network.send n message
      (((Client.received message.url sent.1).map fun _ => ()).mapError (registrationError id),
        .consul ⟨s, sent.2⟩) := by
  change (let r := Agent.carryOut n (register s.client s.registry id service address)
    (r.1, ConfiguredBackend.consul ⟨s, r.2⟩)) = _
  rw [register_eq h ha]
  rfl

theorem perform_createSession (h : s.client.Sends) (n : N) (now ttl : Nat) :
    Backend.perform (ConfiguredBackend.consul ⟨s, n⟩) now (.createSession ttl) =
      let message := sessionMessage s.client s.sessionName ttl
      let sent := Network.send n message
      (readAs sessionOfDocument ((Client.received message.url sent.1).bind Client.decode),
        .consul ⟨s, sent.2⟩) := by
  change (let r := Agent.carryOut n (createSession s.client s.sessionName ttl)
    (r.1, ConfiguredBackend.consul ⟨s, r.2⟩)) = _
  rw [createSession_eq h]
  rfl

theorem register_of_not_canSend (h : canSend s.client.base = false) (n : N) (now : Nat)
    (id : InstanceId) (service : String) {address : String} {a : HostPort}
    (ha : HostPort.read address = .ok a) :
    ∃ e, (Backend.perform (ConfiguredBackend.consul ⟨s, n⟩) now
      (.register id service address)).1 = .error e := by
  change ∃ e, (Agent.carryOut n (register s.client s.registry id service address)).1 = _
  unfold register Client.put
  obtain ⟨e, he⟩ := Client.request_of_not_canSend h isVersioned_registrationPath
  rw [ha]
  change ∃ e, (Agent.carryOut n
    (((s.client.request .put registrationPath none _).bind _).bind _)).1 = _
  rw [he]
  exact ⟨_, rfl⟩

end Consul

/-- With an agent an app starts if the agent can be reached, registers the instance, and creates a
session should the app have a lock. -/
theorem App.start_consul_iff {N : Type} [Network N] {f : Fleet (ConfiguredBackend N)}
    {s : Consul.AgentSettings} {n : N} (hf : f.backend = .consul ⟨s, n⟩)
    (hs : canSend s.client.base → s.client.Sends) {c : Config} {a : HostPort}
    (ha : HostPort.read c.node.advertiseAddress = .ok a) (id : InstanceId)
    (random : RandomSource) :
    (∃ app, (App.start f c id random).1 = .ok app) ↔
      let registered := Network.send n
        (Consul.registrationMessage s.client s.registry id c.node.serviceName a)
      canSend s.client.base ∧ Consul.IsAccepted registered.1 ∧ (c.lock.enabled = true →
        Consul.GivesSession (Network.send registered.2
          (Consul.sessionMessage s.client s.sessionName c.sessionTtl)).1) := by
  rw [App.start_isOk_iff, hf]
  dsimp only
  cases hsend : canSend s.client.base with
  | false =>
    obtain ⟨e, he⟩ := Consul.register_of_not_canSend hsend n f.now id c.node.serviceName ha
    rw [he]
    exact ⟨nofun, nofun⟩
  | true =>
    have hclient := hs hsend
    rw [Consul.perform_register hclient n f.now id c.node.serviceName ha]
    dsimp only
    rw [Consul.perform_createSession hclient]
    dsimp only
    rw [Consul.isAccepted_iff, Consul.givesSession_iff]
    exact ⟨fun h => ⟨rfl, h⟩, And.right⟩

section Valid

variable {N : Type} {c : Config}

theorem ConfiguredBackend.ofConfig_isOk_iff (hb : c.discovery.backend = .consul) (n : N) :
    (∃ b, ofConfig c n = .ok b) ↔ Text.trim c.discovery.consulAddress ≠ "" ∧
      ∃ base, Url.read (Consul.Client.completeAddress (Text.trim c.discovery.consulAddress)) =
        .ok base := by
  unfold ofConfig Consul.AgentSettings.ofConfig Consul.Client.ofAddress
  rw [hb]
  dsimp only
  split_ifs with hblank
  · exact ⟨nofun, fun h => absurd hblank h.1⟩
  · cases Url.read (Consul.Client.completeAddress (Text.trim c.discovery.consulAddress)) with
    | error fault => exact ⟨nofun, fun ⟨_, _, h⟩ => nomatch h⟩
    | ok base => exact ⟨fun _ => ⟨hblank, base, rfl⟩, fun _ => ⟨_, rfl⟩⟩

theorem Consul.Client.sends_of_ofAddress {address : String} {client : Client}
    (h : ofAddress address = .ok client) (hsend : canSend client.base) : client.Sends := by
  unfold ofAddress at h
  dsimp only at h
  split_ifs at h
  split at h
  · next base hread =>
    cases h
    exact ⟨hsend, Url.hasSegments_of_read hread (kind_of_canSend hsend)⟩
  · cases h

theorem ConfiguredBackend.of_ofConfig (hb : c.discovery.backend = .consul) {n : N}
    {b : ConfiguredBackend N} (h : ofConfig c n = .ok b) :
    ∃ s : Consul.AgentSettings, b = .consul ⟨s, n⟩ ∧
      Consul.Client.ofAddress c.discovery.consulAddress = .ok s.client := by
  unfold ofConfig Consul.AgentSettings.ofConfig at h
  rw [hb] at h
  cases hclient : Consul.Client.ofAddress c.discovery.consulAddress with
  | error e => rw [hclient] at h; cases h
  | ok client =>
    rw [hclient] at h
    cases h
    exact ⟨_, rfl, rfl⟩

/-- What a valid configuration starts: in memory all there is; with an agent, a backend if the
address of the agent can be read, and an app if the agent can be reached and consents. -/
theorem Config.starts_of_validate [Network N] (h : c.validate = .ok ()) :
    (c.discovery.backend = .memory →
      (∀ n : N, ∃ m, ConfiguredBackend.ofConfig c n = .ok (.memory m)) ∧
      ∀ (f : Fleet (ConfiguredBackend N)) m id random, f.backend = .memory m →
        ∃ app, (App.start f c id random).1 = .ok app) ∧
    (c.discovery.backend = .consul →
      (∀ n : N, (∃ b, ConfiguredBackend.ofConfig c n = .ok b) ↔
        Text.trim c.discovery.consulAddress ≠ "" ∧
          ∃ base, Url.read (Consul.Client.completeAddress
            (Text.trim c.discovery.consulAddress)) = .ok base) ∧
      ∀ (n : N) b, ConfiguredBackend.ofConfig c n = .ok b →
        ∃ s a, b = .consul ⟨s, n⟩ ∧ HostPort.read c.node.advertiseAddress = .ok a ∧
          ∀ (f : Fleet (ConfiguredBackend N)) n' id random, f.backend = .consul ⟨s, n'⟩ →
            ((∃ app, (App.start f c id random).1 = .ok app) ↔
              let registered := Network.send n'
                (Consul.registrationMessage s.client s.registry id c.node.serviceName a)
              canSend s.client.base ∧ Consul.IsAccepted registered.1 ∧
                (c.lock.enabled = true → Consul.GivesSession (Network.send registered.2
                  (Consul.sessionMessage s.client s.sessionName c.sessionTtl)).1))) := by
  have hvalid := validate_eq_ok_iff.mp h
  constructor
  · intro hb
    refine ⟨fun n => ⟨{ registry := c.memoryRegistry }, ?_⟩, ?_⟩
    · unfold ConfiguredBackend.ofConfig
      rw [hb]
    · intro f m id random hf
      exact App.start_memory hf hvalid id random
  · intro hb
    refine ⟨ConfiguredBackend.ofConfig_isOk_iff hb, ?_⟩
    intro n b hbuilt
    obtain ⟨s, rfl, hclient⟩ := ConfiguredBackend.of_ofConfig hb hbuilt
    obtain ⟨a, ha⟩ := hvalid.advertiseAddress
    refine ⟨s, a, rfl, ha, ?_⟩
    intro f n' id random hf
    exact App.start_consul_iff hf (Consul.Client.sends_of_ofAddress hclient) ha id random

end Valid

theorem Consul.Client.completeAddress_default :
    completeAddress "localhost:8500" = "http://localhost:8500/" := by
  have hsplit : "localhost:8500".splitOn "://" = ["localhost:8500"] := by
    unfold String.splitOn
    rw [if_neg (by decide)]
    repeat (rw [String.splitOnAux]; simp +decide only [if_neg])
  unfold completeAddress
  rw [hsplit, if_neg (by decide), if_neg (by decide)]
  rfl

theorem Consul.Client.ofAddress_default :
    ofAddress Consul.defaultAddress = .ok Consul.Client.onThisHost := by
  have htrim : Text.trim Consul.defaultAddress = "localhost:8500" := by cbv
  have hread : Url.read "http://localhost:8500/" = .ok Consul.Client.onThisHost.base := by cbv
  unfold ofAddress
  rw [htrim, if_neg (by decide), completeAddress_default, hread]

/-- Validation looks neither at the choice of a backend nor at the address of an agent. -/
theorem Config.validate_withAgent (c : Config) (backend : BackendChoice) (address : String) :
    ({ c with discovery := { c.discovery with backend, consulAddress := address } } :
      Config).validate = c.validate := by
  unfold validate
  rfl

theorem Config.validate_standard : Config.standard.validate = .ok () := by decide +kernel

def consentingAgent : Script := ⟨[.replied ⟨⟨200⟩, none, [], .whole⟩], []⟩

def Fleet.on {B : Type} (backend : B) : Fleet B := { backend }

theorem starts_standard :
    (∃ app, (App.start
        (Fleet.on (.memory { registry := Config.standard.memoryRegistry } :
          ConfiguredBackend Script))
        { discovery := { backend := .memory } } ⟨"movie-1"⟩ (.ofSeed 0)).1 = .ok app) ∧
      ∃ b, ConfiguredBackend.ofConfig Config.standard consentingAgent = .ok b ∧
        ∃ app, (App.start (Fleet.on b) Config.standard ⟨"movie-1"⟩ (.ofSeed 0)).1 = .ok app := by
  have hmemory : ({ discovery := { backend := .memory } } : Config).validate = .ok () :=
    (Config.validate_withAgent .standard .memory Consul.defaultAddress).trans
      Config.validate_standard
  have hbuilt : ∃ s : Consul.AgentSettings, s.client = Consul.Client.onThisHost ∧
      ConfiguredBackend.ofConfig Config.standard consentingAgent =
        .ok (.consul ⟨s, consentingAgent⟩) := by
    unfold ConfiguredBackend.ofConfig Consul.AgentSettings.ofConfig
    rw [show Config.standard.discovery.consulAddress = Consul.defaultAddress from rfl,
      Consul.Client.ofAddress_default]
    exact ⟨_, rfl, rfl⟩
  constructor
  · exact ((Config.starts_of_validate hmemory).1 rfl).2 _ _ _ _ rfl
  · obtain ⟨s, hclient, hbuilt⟩ := hbuilt
    obtain ⟨s', a, hb, -, hstart⟩ :=
      ((Config.starts_of_validate Config.validate_standard).2 rfl).2 _ _ hbuilt
    cases hb
    refine ⟨_, hbuilt, (hstart _ consentingAgent _ _ rfl).mpr ⟨?_, ⟨_, rfl, rfl⟩, nofun⟩⟩
    rw [hclient]
    decide

theorem exists_valid_without_backend :
    ({ discovery := { consulAddress := "" } } : Config).validate = .ok () ∧
      (ConfiguredBackend.ofConfig { discovery := { consulAddress := "" } } (⟨[], []⟩ : Script)) =
        .error (.internal "Consul address must not be empty") := by
  have hclient : Consul.Client.ofAddress "" =
      .error (.internal "Consul address must not be empty") := by cbv
  refine ⟨(Config.validate_withAgent .standard .consul "").trans Config.validate_standard, ?_⟩
  unfold ConfiguredBackend.ofConfig Consul.AgentSettings.ofConfig
  dsimp only
  rw [hclient]
  rfl

end Rollcall
