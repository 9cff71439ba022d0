import Mathlib.Tactic
import Rollcall.Consul.Registry

/-!
# What an agent may list

A document lists the instances of a service if each of its items describes one: the service has a
port of sixteen bits and may have an address, and its node may be left out or have an address too.
A field that stands twice makes an item unreadable; what nobody asks for is passed over. The same
facts may also stand in a list, in the order of the fields. What is read of a document is what it
describes, and an instance is reached at the address of its service or else at that of its node.
-/

namespace Rollcall.Consul

variable {fields : List (String × Document)} {name s : String} {d node service : Document} {n : ℕ}

def Lacks (fields : List (String × Document)) (name : String) : Prop := ∀ f ∈ fields, f.1 ≠ name

/-- One field has the name, and no other. -/
def Bears (fields : List (String × Document)) (name : String) (value : Document) : Prop :=
  ∃ before after, fields = before ++ (name, value) :: after ∧ Lacks before name ∧ Lacks after name

theorem uniqueField_eq_none_iff : uniqueField fields name = some none ↔ Lacks fields name := by
  unfold uniqueField Lacks
  constructor
  · intro h
    split at h
    · next hnone => simpa using hnone
    · cases h
    · cases h
  · intro h
    have hnone : fields.filter (·.1 = name) = [] := by simpa using h
    rw [hnone]

theorem uniqueField_eq_some_iff : uniqueField fields name = some (some d) ↔
    Bears fields name d := by
  have hone : uniqueField fields name = some (some d) ↔
      fields.filter (·.1 = name) = [(name, d)] := by
    unfold uniqueField
    constructor
    · intro h
      split at h
      · cases h
      · next other _ hsingle =>
        cases h
        have hmem : (other, d) ∈ fields.filter (·.1 = name) := by simp [hsingle]
        have hname : other = name := by simpa using (List.mem_filter.mp hmem).2
        rw [hsingle, hname]
      · cases h
    · intro h
      rw [h]
  rw [hone, List.filter_eq_cons_iff]
  unfold Bears Lacks
  constructor
  · rintro ⟨before, after, rfl, hbefore, -, hafter⟩
    exact ⟨before, after, rfl, by simpa using hbefore, by simpa using hafter⟩
  · rintro ⟨before, after, rfl, hbefore, hafter⟩
    exact ⟨before, after, rfl, by simpa using hbefore, by simp, by simpa using hafter⟩

/-- The fields give an address, the empty one if they give none. -/
inductive GivesAddress (fields : List (String × Document)) : String → Prop
  | missing (h : Lacks fields "Address") : GivesAddress fields ""
  | present {s : String} (h : Bears fields "Address" (.text s)) : GivesAddress fields s

inductive IsPort : Document → ℕ → Prop
  | intro {n : ℕ} (h : n ≤ 65535) : IsPort (.nat n) n

inductive IsNode : Document → Option String → Prop
  | unknown : IsNode .null none
  | table {fields : List (String × Document)} {s : String} (h : GivesAddress fields s) :
      IsNode (.table fields) (some s)
  | bare : IsNode (.list []) (some "")
  | list (s : String) : IsNode (.list [.text s]) (some s)

inductive IsService : Document → String → ℕ → Prop
  | table {fields : List (String × Document)} {s : String} {port : Document} {n : ℕ}
      (ha : GivesAddress fields s) (hp : Bears fields "Port" port) (hn : IsPort port n) :
      IsService (.table fields) s n
  | list (s : String) {port : Document} {n : ℕ} (hn : IsPort port n) :
      IsService (.list [.text s, port]) s n

namespace HealthEntry

inductive IsOf : Document → HealthEntry → Prop
  | alone {fields : List (String × Document)} {service : Document} {s : String} {n : ℕ}
      (hnode : Lacks fields "Node") (hservice : Bears fields "Service" service)
      (h : IsService service s n) : IsOf (.table fields) ⟨none, s, n⟩
  | table {fields : List (String × Document)} {node service : Document} {a : Option String}
      {s : String} {n : ℕ} (hnode : Bears fields "Node" node) (ha : IsNode node a)
      (hservice : Bears fields "Service" service) (h : IsService service s n) :
      IsOf (.table fields) ⟨a, s, n⟩
  | list {node service : Document} {a : Option String} {s : String} {n : ℕ} (ha : IsNode node a)
      (h : IsService service s n) : IsOf (.list [node, service]) ⟨a, s, n⟩

theorem bind_textOr_eq_some_iff : (uniqueField fields "Address").bind (textOr "") = some s ↔
    GivesAddress fields s := by
  constructor
  · intro h
    obtain ⟨value, hvalue, hs⟩ := Option.bind_eq_some_iff.mp h
    unfold textOr at hs
    split at hs
    · cases hs
      exact .missing (uniqueField_eq_none_iff.mp hvalue)
    · cases hs
      exact .present (uniqueField_eq_some_iff.mp hvalue)
    · cases hs
  · intro h
    cases h with
    | missing h => simp [uniqueField_eq_none_iff.mpr h, textOr]
    | present h => simp [uniqueField_eq_some_iff.mpr h, textOr]

theorem readPort_eq_some_iff : readPort d = some n ↔ IsPort d n := by
  constructor
  · intro h
    unfold readPort at h
    split at h
    · split_ifs at h with hle
      cases h
      exact .intro hle
    · cases h
  · rintro ⟨hle⟩
    exact if_pos hle

theorem readNode_eq_some_iff {a : Option String} : readNode d = some a ↔ IsNode d a := by
  constructor
  · intro h
    unfold readNode at h
    split at h
    · cases h
      exact .unknown
    · next fields =>
      obtain ⟨value, hvalue, h⟩ := Option.bind_eq_some_iff.mp h
      obtain ⟨s, hs, h⟩ := Option.bind_eq_some_iff.mp h
      cases h
      exact .table (bind_textOr_eq_some_iff.mp (Option.bind_eq_some_iff.mpr ⟨value, hvalue, hs⟩))
    · cases h
      exact .bare
    · cases h
      exact .list _
    · cases h
  · intro h
    cases h with
    | unknown => rfl
    | table h =>
      obtain ⟨value, hvalue, hs⟩ := Option.bind_eq_some_iff.mp (bind_textOr_eq_some_iff.mpr h)
      simp [readNode, hvalue, hs]
    | bare => rfl
    | list s => rfl

theorem readService_eq_some_iff : readService d = some (s, n) ↔ IsService d s n := by
  constructor
  · intro h
    unfold readService at h
    split at h
    · next fields =>
      simp only [Option.bind_eq_bind, Option.bind_eq_some_iff, Option.pure_def,
        Option.some.injEq, Prod.mk.injEq] at h
      obtain ⟨value, hvalue, _, hs, field, hfield, _, ⟨port, rfl, hport⟩, rfl, rfl⟩ := h
      exact .table (bind_textOr_eq_some_iff.mp (Option.bind_eq_some_iff.mpr ⟨value, hvalue, hs⟩))
        (uniqueField_eq_some_iff.mp hfield) (readPort_eq_some_iff.mp hport)
    · obtain ⟨port, hport, h⟩ := Option.map_eq_some_iff.mp h
      cases h
      exact .list _ (readPort_eq_some_iff.mp hport)
    · cases h
  · intro h
    cases h with
    | table ha hp hn =>
      obtain ⟨value, hvalue, hs⟩ := Option.bind_eq_some_iff.mp (bind_textOr_eq_some_iff.mpr ha)
      simp [readService, hvalue, hs, uniqueField_eq_some_iff.mpr hp, readPort_eq_some_iff.mpr hn]
    | list s hn => simp [readService, readPort_eq_some_iff.mpr hn]

theorem ofParts_eq_some_iff {e : HealthEntry} : ofParts node service = some e ↔
    IsNode node e.nodeAddress ∧ IsService service e.serviceAddress e.port := by
  unfold ofParts
  simp only [Option.bind_eq_bind, Option.bind_eq_some_iff, Option.pure_def, Option.some.injEq,
    Prod.exists, readNode_eq_some_iff, readService_eq_some_iff]
  constructor
  · rintro ⟨a, ha, s, n, h, rfl⟩
    exact ⟨ha, h⟩
  · rintro ⟨ha, h⟩
    exact ⟨_, ha, _, _, h, rfl⟩

/-- What is read of a document is what it describes. -/
theorem ofDocument_eq_some_iff {e : HealthEntry} : ofDocument d = some e ↔ IsOf d e := by
  constructor
  · intro h
    unfold ofDocument at h
    split at h
    · next fields =>
      simp only [Option.bind_eq_bind, Option.bind_eq_some_iff, ofParts_eq_some_iff] at h
      obtain ⟨value, hvalue, _, hfield, service, rfl, ha, hs⟩ := h
      have hservice := uniqueField_eq_some_iff.mp hfield
      cases value with
      | none =>
        obtain ⟨a, s, n⟩ := e
        cases ha
        exact .alone (uniqueField_eq_none_iff.mp hvalue) hservice hs
      | some node => exact .table (uniqueField_eq_some_iff.mp hvalue) ha hservice hs
    · obtain ⟨ha, hs⟩ := ofParts_eq_some_iff.mp h
      exact .list ha hs
    · cases h
  · intro h
    cases h with
    | @alone fields service s n hnode hservice h =>
      have hparts : ofParts .null service = some ⟨none, s, n⟩ :=
        ofParts_eq_some_iff.mpr ⟨.unknown, h⟩
      simp [ofDocument, uniqueField_eq_none_iff.mpr hnode, uniqueField_eq_some_iff.mpr hservice,
        hparts]
    | @table fields node service a s n hnode ha hservice h =>
      have hparts : ofParts node service = some ⟨a, s, n⟩ := ofParts_eq_some_iff.mpr ⟨ha, h⟩
      simp [ofDocument, uniqueField_eq_some_iff.mpr hnode, uniqueField_eq_some_iff.mpr hservice,
        hparts]
    | list ha h => exact ofParts_eq_some_iff.mpr ⟨ha, h⟩

/-- The document lists the entries. -/
def Lists (d : Document) (entries : List HealthEntry) : Prop :=
  ∃ items, d = .list items ∧ List.Forall₂ IsOf items entries

theorem mapM_ofDocument_eq_some_iff {items : List Document} {entries : List HealthEntry} :
    items.mapM ofDocument = some entries ↔ List.Forall₂ IsOf items entries := by
  induction items generalizing entries with
  | nil => cases entries <;> simp
  | cons d items ih =>
    simp only [List.mapM_cons, Option.bind_eq_bind, Option.bind_eq_some_iff, Option.pure_def,
      Option.some.injEq, ofDocument_eq_some_iff, ih]
    constructor
    · rintro ⟨e, he, rest, hrest, rfl⟩
      exact .cons he hrest
    · intro h
      cases h with
      | cons he hrest => exact ⟨_, he, _, hrest, rfl⟩

theorem listOfDocument_eq_some_iff {entries : List HealthEntry} :
    listOfDocument d = some entries ↔ Lists d entries := by
  unfold Lists
  constructor
  · intro h
    cases d with
    | list items => exact ⟨items, rfl, mapM_ofDocument_eq_some_iff.mp h⟩
    | _ => cases h
  · rintro ⟨items, rfl, h⟩
    exact mapM_ofDocument_eq_some_iff.mpr h

/-- The host of the service, or else that of its node; empty if neither is known. -/
def host (e : HealthEntry) : String :=
  if e.serviceAddress = "" then e.nodeAddress.getD "" else e.serviceAddress

/-- Host and port of each entry that has a host, in their order. -/
def hostPorts (entries : List HealthEntry) : List String :=
  (entries.filter fun e => e.host ≠ "").map fun e => e.host ++ ":" ++ toString e.port

theorem filterMap_address (entries : List HealthEntry) :
    entries.filterMap address = hostPorts entries := by
  induction entries with
  | nil => rfl
  | cons e entries ih =>
    have haddress : e.address =
        if e.host = "" then none else some (e.host ++ ":" ++ toString e.port) := rfl
    unfold hostPorts at ih ⊢
    by_cases hhost : e.host = ""
    · simp [haddress, hhost, ih]
    · simp [haddress, hhost, ih]

theorem hostPorts_eq_nil_iff {entries : List HealthEntry} :
    hostPorts entries = [] ↔ ∀ e ∈ entries, e.host = "" := by
  simp [hostPorts]

end HealthEntry

end Rollcall.Consul
