import Rollcall.Consul.Agent
import Rollcall.Http.Script
import Rollcall.Json.Writer
import Rollcall.Proofs.Address
import Rollcall.Proofs.Consul.Operations
import Rollcall.Proofs.Registry.LiveSet

/-!
# Addresses from a registry in memory and from an agent

Of the same live instances a registry in memory gives every text once, as it was given; through an
agent every instance is given, with its port as a number. The two agree exactly if no two instances
share a text and each text is the plain spelling of its address.
-/

namespace Rollcall

namespace Registry

/-- The instance is registered at the address, and its latest sign of life is no older than the
liveness window. -/
def IsLive (h : History) (window now : Nat) (service : String) (id : InstanceId)
    (address : String) : Prop :=
  Registered h service id address ∧ ∃ t, SignedAt h service id t ∧ now ≤ t + window

theorem liveAt_iff {h : History} {window now : Nat} {service address : String} :
    LiveAt h window now service address ↔ ∃ id, IsLive h window now service id address := by
  unfold LiveAt IsLive
  constructor
  · rintro ⟨id, t, hr, hs, ht⟩
    exact ⟨id, hr, t, hs, ht⟩
  · rintro ⟨id, hr, t, hs, ht⟩
    exact ⟨id, t, hr, hs, ht⟩

variable {window : Nat} {h : History} {r : Registry} {service address : String} {id : InstanceId}

theorem read_of_register {now : Nat} (hr : (r.register now id service address).1 = .ok ()) :
    ∃ a, HostPort.read address = .ok a := by
  unfold register at hr
  cases hread : HostPort.read address with
  | error e => rw [hread] at hr; cases hr
  | ok a => exact ⟨a, rfl⟩

theorem Run.read_of_accepted (run : Run window h r) {e : Answered} (he : e ∈ h)
    (ha : Accepted service id address e) : ∃ a, HostPort.read address = .ok a := by
  induction run with
  | start => cases he
  | @call h r run now q ih =>
    rcases List.mem_cons.mp he with rfl | he
    · obtain ⟨hrequest, hreply⟩ := ha
      dsimp only at hrequest hreply
      subst hrequest
      have hdone : Reply.done (r.register now id service address).1 = .done (.ok ()) := hreply
      injection hdone with hok
      exact read_of_register hok
    · exact ih he

theorem Run.read_of_isLive (run : Run window h r) {now : Nat}
    (hl : IsLive h window now service id address) : ∃ a, HostPort.read address = .ok a := by
  obtain ⟨e, he, haccepted⟩ := hl.1.exists_mem
  exact run.read_of_accepted he haccepted

/-- The instances of a service that are live, each with its address. -/
structure Enumerates (live : List (InstanceId × String)) (h : History) (window now : Nat)
    (service : String) : Prop where
  nodup : (live.map Prod.fst).Nodup
  mem_iff : ∀ id address, (id, address) ∈ live ↔ IsLive h window now service id address

variable {live : List (InstanceId × String)} {now : Nat}

theorem Enumerates.liveAt_iff (hl : Enumerates live h window now service) :
    LiveAt h window now service address ↔ address ∈ live.map Prod.snd := by
  rw [Registry.liveAt_iff]
  simp only [← hl.mem_iff, List.mem_map, Prod.exists, exists_eq_right]

theorem Run.addresses_of_enumerates (run : Run window h r)
    (hl : Enumerates live h window now service) (hne : live ≠ []) :
    ∃ l, r.addresses now service = .ok l ∧ l.Nodup ∧
      ∀ address, address ∈ l ↔ address ∈ live.map Prod.snd := by
  obtain ⟨i, hi⟩ := List.exists_mem_of_ne_nil live hne
  have hlive : ∃ address, LiveAt h window now service address :=
    ⟨i.2, hl.liveAt_iff.mpr (List.mem_map_of_mem hi)⟩
  refine ⟨_, run.addresses_of_live hlive, SortedSet.nodup_ofList _, ?_⟩
  intro address
  rw [run.mem_liveAddresses_iff, hl.liveAt_iff]

theorem Run.addresses_of_none (run : Run window h r)
    (hl : Enumerates [] h window now service) :
    r.addresses now service = .error (.notFound (Error.noLiveInstances service)) := by
  apply run.addresses_of_not_live
  rintro ⟨address, hlive⟩
  exact absurd (hl.liveAt_iff.mp hlive) List.not_mem_nil

/-- The instances of a service that the records give as live. -/
def liveInstances (r : Registry) (now : Nat) (service : String) : List (InstanceId × String) :=
  (r.records.filter fun k record => k.1 = service && r.isLive now record).entries.map
    fun e => (e.1.2, e.2.address)

theorem Run.enumerates_liveInstances (run : Run window h r) (now : Nat) (service : String) :
    Enumerates (r.liveInstances now service) h window now service where
  nodup := by
    have hkeys := run.agrees.unique.filter fun k record => k.1 = service && r.isLive now record
    unfold Table.Unique at hkeys
    rw [liveInstances, List.map_map]
    change (List.map (Prod.snd ∘ Prod.fst) _).Nodup
    rw [← List.map_map]
    refine hkeys.map_on ?_
    intro k hk k' hk' heq
    simp only [Table.filter, List.mem_map, List.mem_filter, Bool.and_eq_true,
      decide_eq_true_eq] at hk hk'
    obtain ⟨e, ⟨-, he, -⟩, rfl⟩ := hk
    obtain ⟨e', ⟨-, he', -⟩, rfl⟩ := hk'
    exact Prod.ext (he.trans he'.symm) heq
  mem_iff := by
    intro id address
    have ha := run.agrees
    simp only [liveInstances, Table.filter, List.mem_map, List.mem_filter, Bool.and_eq_true,
      decide_eq_true_eq, isLive_iff, run.window_eq]
    constructor
    · rintro ⟨⟨⟨other, id⟩, address, t⟩, ⟨hmem, rfl, hlive⟩, heq⟩
      cases heq
      obtain ⟨hr, hs⟩ := (ha.record_iff _ _ _ _).mp (ha.unique.get?_of_mem hmem)
      exact ⟨hr, t, hs, hlive⟩
    · rintro ⟨hr, t, hs, hlive⟩
      have hget := (ha.record_iff service id address t).mpr ⟨hr, hs⟩
      exact ⟨_, ⟨Table.mem_entries_of_get? hget, rfl, hlive⟩, rfl⟩

end Registry

namespace Consul

open Http

/-- The fields of a document that stand once under a name. -/
def Has (d : Document) (name : String) (value : Document) : Prop :=
  ∃ fields, d = .table fields ∧ uniqueField fields name = some (some value)

/-- The entry of an instance shows the address and the port from the body that registered it; the
agent may say what it likes about the node. -/
structure Shows (entry body : Document) : Prop where
  service : ∃ s address port, Has entry "Service" s ∧ Has s "Address" address ∧ Has s "Port" port ∧
    Has body "Address" address ∧ Has body "Port" port
  node : ∃ fields node, entry = .table fields ∧ uniqueField fields "Node" = some node ∧
    (HealthEntry.readNode (node.getD .null)).isSome = true

/-- The body is that of the request by which an instance is registered. -/
def Registers (c : Client) (s : RegistrySettings) (service : String) (i : InstanceId × String)
    (body : Document) : Prop :=
  ∃ r, (register c s i.1 service i.2).AsksOnce r ∧ r.body = some (.json body)

/-- The reply has one entry for each instance, in any order. -/
def Answers (c : Client) (s : RegistrySettings) (service : String)
    (live : List (InstanceId × String)) (d : Delivery) : Prop :=
  ∃ reply entries listed, d = .replied reply ∧ reply.status.isSuccess = true ∧
    Client.decode reply = .ok (.list entries) ∧ listed.Perm live ∧
    List.Forall₂ (fun entry i => ∃ body, Registers c s service i body ∧ Shows entry body)
      entries listed

variable {c : Client} {s : RegistrySettings} {service : String} {i : InstanceId × String}
  {a : HostPort} {entry body : Document}

theorem registers_eq (hc : c.Sends) (ha : HostPort.read i.2 = .ok a)
    (h : Registers c s service i body) : body = registration s i.1 service a := by
  obtain ⟨r, hr, hbody⟩ := h
  rw [hr.unique ⟨_, register_eq hc ha⟩] at hbody
  injection hbody with hbody
  injection hbody with hbody
  exact hbody.symm

theorem Has.unique {d value value' : Document} {name : String} (h : Has d name value)
    (h' : Has d name value') : value = value' := by
  obtain ⟨fields, rfl, hv⟩ := h
  obtain ⟨fields', heq, hv'⟩ := h'
  cases heq
  rw [hv] at hv'
  injection hv' with hv'
  injection hv'

theorem has_registration (s : RegistrySettings) (id : InstanceId) (service : String)
    (a : HostPort) : Has (registration s id service a) "Address" (.text a.host) ∧
      Has (registration s id service a) "Port" (.nat a.port) := by
  exact ⟨⟨_, rfl, rfl⟩, ⟨_, rfl, rfl⟩⟩

theorem address_of_shows (ha : a.WellFormed) {id : InstanceId}
    (h : Shows entry (registration s id service a)) :
    ∃ e, HealthEntry.ofDocument entry = some e ∧ e.address = some a.render := by
  obtain ⟨⟨d, address, port, hservice, haddress, hport, hsent, hsent'⟩, fields, node, rfl, hnode,
    hreadable⟩ := h
  obtain ⟨htext, hnat⟩ := has_registration s id service a
  obtain rfl := hsent.unique htext
  obtain rfl := hsent'.unique hnat
  obtain ⟨sfields, rfl, haddress⟩ := haddress
  obtain ⟨_, heq, hport⟩ := hport
  cases heq
  obtain ⟨_, heq, hservice⟩ := hservice
  cases heq
  obtain ⟨nodeAddress, hread⟩ := Option.isSome_iff_exists.mp hreadable
  have hreadPort : HealthEntry.readPort (.nat a.port) = some a.port := if_pos ha.port_le
  have hreadService : HealthEntry.readService (.table sfields) = some (a.host, a.port) := by
    simp [HealthEntry.readService, haddress, hport, textOr, hreadPort]
  refine ⟨⟨nodeAddress, a.host, a.port⟩, ?_, ?_⟩
  · simp [HealthEntry.ofDocument, HealthEntry.ofParts, hnode, hservice, hread, hreadService]
  · simp [HealthEntry.address, ha.host_ne, HostPort.render]

theorem addresses_of_shows (hc : c.Sends) {entries : List Document}
    {listed : List (InstanceId × String)} (hread : ∀ i ∈ listed, ∃ a, HostPort.read i.2 = .ok a)
    (h : List.Forall₂ (fun entry i => ∃ body, Registers c s service i body ∧ Shows entry body)
      entries listed) :
    ∃ es, HealthEntry.listOfDocument (.list entries) = some es ∧
      es.filterMap HealthEntry.address = listed.map fun i => HostPort.plain i.2 := by
  unfold HealthEntry.listOfDocument
  induction h with
  | nil => exact ⟨[], rfl, rfl⟩
  | @cons entry i entries listed hentry _ ih =>
    obtain ⟨a, ha⟩ := hread i List.mem_cons_self
    obtain ⟨es, hes, haddresses⟩ := ih fun j hj => hread j (List.mem_cons_of_mem _ hj)
    obtain ⟨body, hbody, hshows⟩ := hentry
    obtain rfl := registers_eq hc ha hbody
    obtain ⟨e, he, haddress⟩ := address_of_shows (HostPort.wellFormed_of_read ha) hshows
    refine ⟨e :: es, ?_, ?_⟩
    · simp [he, hes]
    · rw [List.filterMap_cons_some haddress, haddresses, List.map_cons,
        HostPort.plain_of_read ha]

def entryOf (a : HostPort) : Document :=
  .table [("Service", .table [("Address", .text a.host), ("Port", .nat a.port)])]

theorem shows_entryOf (s : RegistrySettings) (id : InstanceId) (service : String) (a : HostPort) :
    Shows (entryOf a) (registration s id service a) where
  service := by
    obtain ⟨haddress, hport⟩ := has_registration s id service a
    exact ⟨_, _, _, ⟨_, rfl, rfl⟩, ⟨_, rfl, rfl⟩, ⟨_, rfl, rfl⟩, haddress, hport⟩
  node := ⟨_, _, rfl, rfl, rfl⟩

theorem answers_of_entries (hc : c.Sends) {live : List (InstanceId × String)}
    {parts : List HostPort} (hread : List.Forall₂ (fun a i => HostPort.read i.2 = .ok a) parts live)
    {reply : Reply} (hsuccess : reply.status.isSuccess = true)
    (hdecode : Client.decode reply = .ok (.list (parts.map entryOf))) :
    Answers c s service live (.replied reply) := by
  refine ⟨reply, _, live, rfl, hsuccess, hdecode, .refl _, ?_⟩
  rw [List.forall₂_map_left_iff]
  refine hread.imp ?_
  intro a i ha
  exact ⟨_, ⟨_, ⟨_, register_eq hc ha⟩, rfl⟩, shows_entryOf s i.1 service a⟩

variable {N : Type} [Network N] {n : N} {live : List (InstanceId × String)}

theorem carryOut_addresses_of_reply (hc : c.Sends) {reply : Reply} {d : Document}
    (hreply : (Network.send n (healthMessage c service)).1 = .replied reply)
    (hsuccess : reply.status.isSuccess = true) (hdecode : Client.decode reply = .ok d) :
    (Agent.carryOut n (addresses c service)).1 = readAddresses service (.ok d) := by
  have hreceived : Client.received (healthMessage c service).url
      (Network.send n (healthMessage c service)).1 = .ok reply :=
    Client.received_eq_ok_iff.mpr ⟨hreply, hsuccess⟩
  rw [addresses_eq hc]
  change readAddresses service ((Client.received _
    (Network.send n (healthMessage c service)).1).bind Client.decode) = _
  rw [hreceived, Except.bind, hdecode]

/-- Through an agent every instance is given, in the plain spelling of its address. -/
theorem carryOut_addresses (hc : c.Sends) (hread : ∀ i ∈ live, ∃ a, HostPort.read i.2 = .ok a)
    (h : Answers c s service live (Network.send n (healthMessage c service)).1) :
    ∃ l, l.Perm (live.map fun i => HostPort.plain i.2) ∧
      (Agent.carryOut n (addresses c service)).1 =
        if l = [] then .error (.notFound (Error.noLiveInstances service)) else .ok l := by
  obtain ⟨reply, entries, listed, hreply, hsuccess, hdecode, hperm, hentries⟩ := h
  obtain ⟨es, hes, haddresses⟩ :=
    addresses_of_shows hc (fun i hi => hread i (hperm.mem_iff.mp hi)) hentries
  refine ⟨es.filterMap HealthEntry.address, ?_, ?_⟩
  · rw [haddresses]
    exact hperm.map _
  · rw [carryOut_addresses_of_reply hc hreply hsuccess hdecode, readAddresses, hes]
    change addressesOf service es = _
    unfold addressesOf
    cases es.filterMap HealthEntry.address with
    | nil => rfl
    | cons first rest => rfl

end Consul

/-- Texts given once each are as many as their plain spellings only if they are different and plain
themselves. -/
theorem HostPort.perm_map_plain_iff {texts l : List String} (hl : l.Nodup)
    (hmem : ∀ text, text ∈ l ↔ text ∈ texts) :
    l.Perm (texts.map plain) ↔ texts.Nodup ∧ ∀ text ∈ texts, plain text = text := by
  constructor
  · intro h
    refine ⟨(h.nodup_iff.mp hl).of_map plain, ?_⟩
    intro text htext
    obtain ⟨other, -, rfl⟩ := List.mem_map.mp (h.mem_iff.mp ((hmem text).mpr htext))
    exact plain_plain other
  · rintro ⟨hnodup, hplain⟩
    rw [List.map_congr_left hplain, List.map_id']
    exact (List.perm_ext_iff_of_nodup hl hnodup).mpr hmem

open Consul Http in
/-- A registry in memory and one behind an agent, in which the same instances are live, agree on
there being none. If there are any, the first gives every text once and the second the plain
spelling for every instance, which is the same exactly if no two share a text and all are plain. -/
theorem Registry.Run.addresses_agree_iff {h : Registry.History} {window now : Nat} {r : Registry}
    (run : Registry.Run window h r) {service : String} {live : List (InstanceId × String)}
    (hlive : Registry.Enumerates live h window now service) {c : Client} (hc : c.Sends)
    (s : RegistrySettings) {N : Type} [Network N] {n : N}
    (hagent : Answers c s service live (Network.send n (healthMessage c service)).1) :
    (live = [] →
      r.addresses now service = .error (.notFound (Error.noLiveInstances service)) ∧
      (Agent.carryOut n (Consul.addresses c service)).1 =
        .error (.notFound (Error.noLiveInstances service))) ∧
    (live ≠ [] → ∃ l l', r.addresses now service = .ok l ∧
      (Agent.carryOut n (Consul.addresses c service)).1 = .ok l' ∧
      l.Nodup ∧ (∀ address, address ∈ l ↔ address ∈ live.map Prod.snd) ∧
      l'.Perm (live.map fun i => HostPort.plain i.2) ∧
      (l.Perm l' ↔ (live.map Prod.snd).Nodup ∧
        ∀ i ∈ live, HostPort.plain i.2 = i.2)) := by
  have hread : ∀ i ∈ live, ∃ a, HostPort.read i.2 = .ok a := fun i hi =>
    run.read_of_isLive ((hlive.mem_iff i.1 i.2).mp hi)
  obtain ⟨l', hperm, hgiven⟩ := carryOut_addresses hc hread hagent
  constructor
  · rintro rfl
    refine ⟨run.addresses_of_none hlive, ?_⟩
    rw [hgiven, if_pos hperm.eq_nil]
  · intro hne
    obtain ⟨l, hl, hnodup, hmem⟩ := run.addresses_of_enumerates hlive hne
    have hne' : l' ≠ [] := by
      rintro rfl
      exact hne (List.map_eq_nil_iff.mp hperm.symm.eq_nil)
    refine ⟨l, l', hl, hgiven.trans (if_neg hne'), hnodup, hmem, hperm, ?_⟩
    have htexts : live.map (fun i => HostPort.plain i.2) =
        (live.map Prod.snd).map HostPort.plain := by
      rw [List.map_map]
      rfl
    rw [hperm.congr_right, htexts, HostPort.perm_map_plain_iff hnodup hmem, List.forall_mem_map]

namespace Consul

open Http

theorem fromUTF8?_bytes (s : String) : String.fromUTF8? ⟨(Text.bytes s).toArray⟩ = some s := by
  rw [Text.fromUTF8?_eq_some_iff]
  unfold Text.bytes
  rw [Array.toArray_toList]

def replyOf (text : String) : Reply := ⟨⟨200⟩, none, Text.bytes text, .whole⟩

theorem decode_replyOf {text : String} {d : Document} (h : Json.read text = some d) :
    Client.decode (replyOf text) = .ok d := by
  have hbytes : (replyOf text).read = .ok (Text.bytes text) := rfl
  have hread : (String.fromUTF8? ⟨(Text.bytes text).toArray⟩).bind Json.read = some d := by
    rw [fromUTF8?_bytes]
    exact h
  unfold Client.decode
  simp only [hbytes, bind, Except.bind, hread]

/-- An agent that replies once, with the entries of the addresses. -/
def listing (parts : List HostPort) : Script :=
  ⟨[.replied (replyOf (Json.render (.list (parts.map entryOf))))], []⟩

end Consul

theorem addresses_agree_on_two : ∃ (r : Registry) (l l' : List String),
    r.addresses 0 "web" = .ok l ∧
      (Consul.Agent.carryOut (Consul.listing [⟨"b", 2⟩, ⟨"a", 1⟩])
        (Consul.addresses .onThisHost "web")).1 = .ok l' ∧ l.Perm l' := by
  have hstart : Registry.Run 5 [] (.withWindow 5) := .start
  have run := (hstart.call 0 (.register ⟨"m-1"⟩ "web" "a:1")).call 0
    (.register ⟨"m-2"⟩ "web" "b:2")
  have hlive := run.enumerates_liveInstances 0 "web"
  have hjson : Json.read (Json.render (.list (List.map Consul.entryOf [⟨"b", 2⟩, ⟨"a", 1⟩]))) =
      some (.list (List.map Consul.entryOf [⟨"b", 2⟩, ⟨"a", 1⟩])) := by cbv
  have hread : List.Forall₂ (fun a (i : InstanceId × String) => HostPort.read i.2 = .ok a)
      [⟨"b", 2⟩, ⟨"a", 1⟩] [(⟨"m-2"⟩, "b:2"), (⟨"m-1"⟩, "a:1")] :=
    .cons rfl (.cons rfl .nil)
  have hanswers : Consul.Answers .onThisHost {} "web" _ _ :=
    Consul.answers_of_entries Consul.Client.sends_onThisHost hread rfl (Consul.decode_replyOf hjson)
  obtain ⟨-, hsome⟩ := run.addresses_agree_iff (n := Consul.listing [⟨"b", 2⟩, ⟨"a", 1⟩])
    hlive Consul.Client.sends_onThisHost {} hanswers
  obtain ⟨l, l', hl, hl', -, -, -, hiff⟩ := hsome (List.cons_ne_nil _ _)
  exact ⟨_, l, l', hl, hl', hiff.mpr ⟨by decide, by decide⟩⟩

/-- Two instances that share an address, and one that writes a zero before its port. -/
theorem exists_addresses_disagree : ∃ (h : Registry.History) (r : Registry) (n : Http.Script)
    (live : List (InstanceId × String)), Registry.Run 5 h r ∧
      Registry.Enumerates live h 5 0 "web" ∧
      Consul.Answers .onThisHost {} "web" live
        (Http.Network.send n (Consul.healthMessage .onThisHost "web")).1 ∧
      r.addresses 0 "web" = .ok ["a:1", "b:02"] ∧
      (Consul.Agent.carryOut n (Consul.addresses .onThisHost "web")).1 =
        .ok ["b:2", "a:1", "a:1"] := by
  have hstart : Registry.Run 5 [] (.withWindow 5) := .start
  have run := ((hstart.call 0 (.register ⟨"m-1"⟩ "web" "a:1")).call 0
    (.register ⟨"m-2"⟩ "web" "a:1")).call 0 (.register ⟨"m-3"⟩ "web" "b:02")
  have hlive := run.enumerates_liveInstances 0 "web"
  have hjson : Json.read
      (Json.render (.list (List.map Consul.entryOf [⟨"b", 2⟩, ⟨"a", 1⟩, ⟨"a", 1⟩]))) =
      some (.list (List.map Consul.entryOf [⟨"b", 2⟩, ⟨"a", 1⟩, ⟨"a", 1⟩])) := by cbv
  have hread : List.Forall₂ (fun a (i : InstanceId × String) => HostPort.read i.2 = .ok a)
      [⟨"b", 2⟩, ⟨"a", 1⟩, ⟨"a", 1⟩] [(⟨"m-3"⟩, "b:02"), (⟨"m-2"⟩, "a:1"), (⟨"m-1"⟩, "a:1")] :=
    .cons rfl (.cons rfl (.cons rfl .nil))
  have hdecode := Consul.decode_replyOf hjson
  have hanswers : Consul.Answers .onThisHost {} "web" _ _ :=
    Consul.answers_of_entries Consul.Client.sends_onThisHost hread rfl hdecode
  refine ⟨_, _, Consul.listing [⟨"b", 2⟩, ⟨"a", 1⟩, ⟨"a", 1⟩], _, run, hlive, hanswers, rfl, ?_⟩
  rw [Consul.carryOut_addresses_of_reply Consul.Client.sends_onThisHost rfl rfl hdecode]
  rfl

end Rollcall
