import Mathlib.Tactic
import Rollcall.Config.Document
import Rollcall.Proofs.Config.Environment

/-!
# The fields of a configuration

A configuration is no more than the values of its twenty fields. In a document each field stands in
one of the five sections, at a place and under a name, and its value is written in one of six forms.
What is written in a form is read back, and of all that is no table nothing else is read.
-/

namespace Rollcall.Config

open Document

/-- How the value of a field is written in a document. -/
inductive Form where
  | text
  | flag
  | number (bound : ℕ)
  | numberOrNull (bound : ℕ)
  | backend
  | texts
  deriving DecidableEq

namespace Form

abbrev Value : Form → Type
  | text => String
  | flag => Bool
  | number _ => ℕ
  | numberOrNull _ => Option ℕ
  | backend => BackendChoice
  | texts => List String

def Fits : (w : Form) → w.Value → Prop
  | text, _ => True
  | flag, _ => True
  | number bound, (n : ℕ) => n ≤ bound
  | numberOrNull bound, (n : Option ℕ) => ∀ k ∈ n, k ≤ bound
  | backend, _ => True
  | texts, _ => True

def write : (w : Form) → w.Value → Document
  | text, (value : String) => .text value
  | flag, (value : Bool) => .bool value
  | number _, (n : ℕ) => .nat n
  | numberOrNull _, (n : Option ℕ) => .ofOption .nat n
  | backend, (choice : BackendChoice) => .text choice.name
  | texts, (value : List String) => .texts value

def read : (w : Form) → Document → Option w.Value
  | text => asText
  | flag => asBool
  | number bound => asNat bound
  | numberOrNull bound => asNatOrNull bound
  | backend => asBackend
  | texts => asTexts

/-- The document is the written form of no value. Nor is it a table that may choose a backend. -/
structure Refuses (w : Form) (d : Document) : Prop where
  ne_write : ∀ value, w.Fits value → d ≠ w.write value
  ne_table : w = backend → ∀ fields, d ≠ .table fields

variable {d : Document} {bound n : ℕ} {names : List String} {items : List Document}

theorem asNat_nat (h : n ≤ bound) : (Document.nat n).asNat bound = some n :=
  if_pos h

theorem eq_nat_of_asNat (h : d.asNat bound = some n) : n ≤ bound ∧ d = .nat n := by
  unfold asNat at h
  split at h
  · split_ifs at h with hle
    cases h
    exact ⟨hle, rfl⟩
  · cases h

theorem mapM_asText_eq_some_iff :
    items.mapM asText = some names ↔ items = names.map Document.text := by
  induction items generalizing names with
  | nil => cases names <;> simp
  | cons item items ih =>
    simp only [List.mapM_cons, Option.bind_eq_bind, Option.bind_eq_some_iff, Option.pure_def,
      Option.some.injEq, ih]
    constructor
    · rintro ⟨name, hname, rest, rfl, rfl⟩
      cases item with
      | text s =>
        cases hname
        rfl
      | _ => cases hname
    · intro h
      cases names with
      | nil => cases h
      | cons name rest =>
        obtain ⟨rfl, hrest⟩ := List.cons.inj h
        exact ⟨name, rfl, rest, hrest, rfl⟩

theorem read_write (w : Form) {value : w.Value} (h : w.Fits value) :
    w.read (w.write value) = some value := by
  cases w with
  | text => rfl
  | flag => rfl
  | number bound => exact asNat_nat h
  | numberOrNull bound =>
    cases value with
    | none => rfl
    | some n => exact congrArg (Option.map some) (asNat_nat (h n rfl))
  | backend => exact BackendChoice.ofName?_name value
  | texts => exact mapM_asText_eq_some_iff.mpr rfl

theorem written_of_read (w : Form) {value : w.Value} (h : w.read d = some value) :
    (w.Fits value ∧ d = w.write value) ∨ (w = backend ∧ ∃ fields, d = .table fields) := by
  cases w with
  | text =>
    cases d with
    | text s =>
      cases h
      exact .inl ⟨trivial, rfl⟩
    | _ => cases h
  | flag =>
    cases d with
    | bool b =>
      cases h
      exact .inl ⟨trivial, rfl⟩
    | _ => cases h
  | number bound => exact .inl (eq_nat_of_asNat h)
  | numberOrNull bound =>
    change d.asNatOrNull bound = some value at h
    unfold asNatOrNull at h
    split at h
    · cases h
      exact .inl ⟨nofun, rfl⟩
    · obtain ⟨n, hn, rfl⟩ := Option.map_eq_some_iff.mp h
      obtain ⟨hle, rfl⟩ := eq_nat_of_asNat hn
      refine .inl ⟨?_, rfl⟩
      rintro k ⟨⟩
      exact hle
  | backend =>
    cases d with
    | text s => exact .inl ⟨trivial, congrArg Document.text (Writing.ofName?_eq_some_iff.mp h)⟩
    | table fields => exact .inr ⟨rfl, fields, rfl⟩
    | _ => cases h
  | texts =>
    cases d with
    | list items => exact .inl ⟨trivial, congrArg Document.list (mapM_asText_eq_some_iff.mp h)⟩
    | _ => cases h

theorem Refuses.read_eq_none {w : Form} (h : w.Refuses d) : w.read d = none := by
  rw [Option.eq_none_iff_forall_ne_some]
  intro value hread
  rcases w.written_of_read hread with ⟨hfits, hwritten⟩ | ⟨hbackend, fields, htable⟩
  · exact h.ne_write value hfits hwritten
  · exact h.ne_table hbackend fields htable

end Form

inductive Section where
  | node
  | discovery
  | lock
  | retry
  | logging
  deriving DecidableEq

namespace Section

def name : Section → String
  | node => "node"
  | discovery => "discovery"
  | lock => "lock"
  | retry => "retry"
  | logging => "logging"

def place : Section → ℕ
  | node => 0
  | discovery => 1
  | lock => 2
  | retry => 3
  | logging => 4

end Section

inductive Field where
  | serviceName
  | advertiseAddress
  | heartbeatInterval
  | backend
  | consulAddress
  | checkTtl
  | deregisterCriticalAfter
  | livenessMultiplier
  | requestTimeout
  | lockEnabled
  | lockKey
  | sessionTtl
  | retryBackoff
  | workTimeout
  | runInterval
  | watchServices
  | maxAttempts
  | retryInterval
  | logLevel
  | logFormat
  deriving DecidableEq

namespace Field

def home : Field → Section
  | serviceName | advertiseAddress | heartbeatInterval => .node
  | backend | consulAddress | checkTtl | deregisterCriticalAfter | livenessMultiplier
  | requestTimeout => .discovery
  | lockEnabled | lockKey | sessionTtl | retryBackoff | workTimeout | runInterval
  | watchServices => .lock
  | maxAttempts | retryInterval => .retry
  | logLevel | logFormat => .logging

/-- The place in the section, if that is a list. -/
def place : Field → ℕ
  | serviceName | backend | lockEnabled | maxAttempts | logLevel => 0
  | advertiseAddress | consulAddress | lockKey | retryInterval | logFormat => 1
  | heartbeatInterval | checkTtl | sessionTtl => 2
  | deregisterCriticalAfter | retryBackoff => 3
  | livenessMultiplier | workTimeout => 4
  | requestTimeout | runInterval => 5
  | watchServices => 6

def name : Field → String
  | serviceName => "service_name"
  | advertiseAddress => "advertise_address"
  | heartbeatInterval => "heartbeat_interval_secs"
  | backend => "backend"
  | consulAddress => "consul_address"
  | checkTtl => "check_ttl_secs"
  | deregisterCriticalAfter => "deregister_critical_after_secs"
  | livenessMultiplier => "liveness_multiplier"
  | requestTimeout => "request_timeout_secs"
  | lockEnabled => "enabled"
  | lockKey => "key"
  | sessionTtl => "session_ttl_secs"
  | retryBackoff => "retry_backoff_secs"
  | workTimeout => "work_timeout_secs"
  | runInterval => "run_interval_secs"
  | watchServices => "watch_services"
  | maxAttempts => "max_attempts"
  | retryInterval => "interval_ms"
  | logLevel => "level"
  | logFormat => "format"

def form : Field → Form
  | serviceName | advertiseAddress | consulAddress | lockKey | logLevel | logFormat => .text
  | lockEnabled => .flag
  | heartbeatInterval | checkTtl | requestTimeout | sessionTtl | retryBackoff | workTimeout
  | runInterval | retryInterval => .number Text.max64
  | livenessMultiplier | maxAttempts => .number Text.max32
  | deregisterCriticalAfter => .numberOrNull Text.max64
  | backend => .backend
  | watchServices => .texts

def get : (f : Field) → Config → f.form.Value
  | serviceName, c => c.node.serviceName
  | advertiseAddress, c => c.node.advertiseAddress
  | heartbeatInterval, c => c.node.heartbeatIntervalSecs
  | backend, c => c.discovery.backend
  | consulAddress, c => c.discovery.consulAddress
  | checkTtl, c => c.discovery.checkTtlSecs
  | deregisterCriticalAfter, c => c.discovery.deregisterCriticalAfterSecs
  | livenessMultiplier, c => c.discovery.livenessMultiplier
  | requestTimeout, c => c.discovery.requestTimeoutSecs
  | lockEnabled, c => c.lock.enabled
  | lockKey, c => c.lock.key
  | sessionTtl, c => c.lock.sessionTtlSecs
  | retryBackoff, c => c.lock.retryBackoffSecs
  | workTimeout, c => c.lock.workTimeoutSecs
  | runInterval, c => c.lock.runIntervalSecs
  | watchServices, c => c.lock.watchServices
  | maxAttempts, c => c.retry.maxAttempts
  | retryInterval, c => c.retry.intervalMs
  | logLevel, c => c.logging.level
  | logFormat, c => c.logging.format

end Field

def ofValues (value : (f : Field) → f.form.Value) : Config where
  node :=
    { serviceName := value .serviceName
      advertiseAddress := value .advertiseAddress
      heartbeatIntervalSecs := value .heartbeatInterval }
  discovery :=
    { backend := value .backend
      consulAddress := value .consulAddress
      checkTtlSecs := value .checkTtl
      deregisterCriticalAfterSecs := value .deregisterCriticalAfter
      livenessMultiplier := value .livenessMultiplier
      requestTimeoutSecs := value .requestTimeout }
  lock :=
    { enabled := value .lockEnabled
      key := value .lockKey
      sessionTtlSecs := value .sessionTtl
      retryBackoffSecs := value .retryBackoff
      workTimeoutSecs := value .workTimeout
      runIntervalSecs := value .runInterval
      watchServices := value .watchServices }
  retry :=
    { maxAttempts := value .maxAttempts
      intervalMs := value .retryInterval }
  logging :=
    { level := value .logLevel
      format := value .logFormat }

@[simp] theorem get_ofValues (value : (f : Field) → f.form.Value) (f : Field) :
    f.get (ofValues value) = value f := by
  cases f <;> rfl

def override (c : Config) (given : (f : Field) → Option f.form.Value) : Config :=
  ofValues fun f => (given f).getD (f.get c)

@[simp] theorem get_override (c : Config) (given : (f : Field) → Option f.form.Value) (f : Field) :
    f.get (c.override given) = (given f).getD (f.get c) :=
  get_ofValues _ f

end Rollcall.Config
