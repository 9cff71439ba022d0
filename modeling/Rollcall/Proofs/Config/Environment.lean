import Mathlib.Tactic
import Rollcall.Proofs.Config.Names
import Rollcall.Proofs.Text.ByteOrder
import Rollcall.Proofs.Text.Numeral

/-!
# The fields of a configuration in the environment

A variable says how its value is written and which field it sets. So whatever is to be known about
all variables is shown for the few ways of writing a value, and for getting a field from what a
variable holds: what is written is read back, a variable without a readable value leaves the
default, and no variable sets the field of another.
-/

namespace Rollcall

theorem Environment.text?_eq_some_iff {env : Environment} {name s : String} :
    env.text? name = some s ↔ env.lookup name = some s.toUTF8 := by
  unfold Environment.text?
  simp only [Option.bind_eq_some_iff, Text.fromUTF8?_eq_some_iff, exists_eq_right]

theorem lowercase_name (choice : BackendChoice) : Text.lowercase choice.name = choice.name := by
  cases choice
  · decide +kernel
  · decide +kernel

namespace Config

/-- How the value of a variable is written. -/
inductive Writing where
  | text
  | numeral (bound : ℕ)
  | flag
  | backend
  | list
  deriving DecidableEq

namespace Writing

abbrev Value : Writing → Type
  | text => String
  | numeral _ => ℕ
  | flag => Bool
  | backend => BackendChoice
  | list => List String

/-- The text says the value. -/
def Says : (w : Writing) → String → w.Value → Prop
  | text, s, (value : String) => value = s
  | numeral bound, s, (n : ℕ) => Text.Numeral.Denotes s.toList n ∧ n ≤ bound
  | flag, s, (value : Bool) => s = toString value
  | backend, s, (choice : BackendChoice) => Text.lowercase s = choice.name
  | list, s, (value : List String) => ListsNames s value

def print : (w : Writing) → w.Value → String
  | text, (value : String) => value
  | numeral _, (n : ℕ) => toString n
  | flag, (value : Bool) => toString value
  | backend, (choice : BackendChoice) => choice.name
  | list, (value : List String) => ",".intercalate value

/-- The value has a text that says it: a number is within its bound, and the names of a list are
neither empty nor padded and have no comma. -/
def Printable : (w : Writing) → w.Value → Prop
  | text, _ => True
  | numeral bound, (n : ℕ) => n ≤ bound
  | flag, _ => True
  | backend, _ => True
  | list, (value : List String) =>
    ∀ name ∈ value, name ≠ "" ∧ ',' ∉ name.toList ∧ Text.Unpadded name

def read : (w : Writing) → String → Option w.Value
  | text, s => some s
  | numeral bound, s => (Text.Numeral.read bound s).toOption
  | flag, s => if s = "true" then some true else if s = "false" then some false else none
  | backend, s => BackendChoice.ofName? (Text.lowercase s)
  | list, s => some (commaSeparated s)

theorem bind_read_text (o : Option String) : o.bind text.read = o := by
  cases o <;> rfl

theorem bind_read_list (o : Option String) : o.bind list.read = o.map commaSeparated := by
  cases o <;> rfl

theorem says_print (w : Writing) {value : w.Value} (h : w.Printable value) :
    w.Says (w.print value) value := by
  cases w with
  | text => rfl
  | numeral bound => exact ⟨Text.Numeral.denotes_toString value, h⟩
  | flag => rfl
  | backend => exact lowercase_name value
  | list => exact listsNames_iff.mpr (commaSeparated_row h)

theorem ofName?_eq_some_iff {name : String} {choice : BackendChoice} :
    BackendChoice.ofName? name = some choice ↔ name = choice.name := by
  constructor
  · intro h
    unfold BackendChoice.ofName? at h
    split_ifs at h with hmemory hconsul
    · cases h
      exact hmemory
    · cases h
      exact hconsul
  · rintro rfl
    exact BackendChoice.ofName?_name choice

theorem toOption_eq_some_iff {ε α : Type} {r : Except ε α} {a : α} :
    r.toOption = some a ↔ r = .ok a := by
  cases r <;> simp [Except.toOption]

theorem readFlag_eq_some_iff {s : String} {value : Bool} :
    (if s = "true" then some true else if s = "false" then some false else none) = some value ↔
      s = toString value := by
  constructor
  · intro h
    split_ifs at h with htrue hfalse
    · cases h
      exact htrue
    · cases h
      exact hfalse
  · rintro rfl
    cases value <;> rfl

theorem read_eq_some_iff (w : Writing) {s : String} {value : w.Value} :
    w.read s = some value ↔ w.Says s value := by
  cases w with
  | text => exact Option.some_inj.trans eq_comm
  | numeral bound => exact toOption_eq_some_iff.trans Text.Numeral.readChars_eq_ok_iff
  | flag => exact readFlag_eq_some_iff
  | backend => exact ofName?_eq_some_iff
  | list => exact Option.some_inj.trans listsNames_iff.symm

end Writing

/-- A variable that sets a field. -/
inductive Variable where
  | serviceName
  | advertiseAddress
  | heartbeatInterval
  | backend
  | consulAddress
  | checkTtl
  | lockEnabled
  | lockKey
  | sessionTtl
  | runInterval
  | watchServices
  | maxAttempts
  | retryInterval
  | logLevel
  | logFormat
  deriving DecidableEq

namespace Variable

def name : Variable → String
  | serviceName => serviceNameVar
  | advertiseAddress => advertiseAddressVar
  | heartbeatInterval => heartbeatIntervalVar
  | backend => backendVar
  | consulAddress => consulAddressVar
  | checkTtl => checkTtlVar
  | lockEnabled => lockEnabledVar
  | lockKey => lockKeyVar
  | sessionTtl => sessionTtlVar
  | runInterval => runIntervalVar
  | watchServices => watchServicesVar
  | maxAttempts => maxAttemptsVar
  | retryInterval => retryIntervalVar
  | logLevel => logLevelVar
  | logFormat => logFormatVar

def writing : Variable → Writing
  | heartbeatInterval | checkTtl | sessionTtl | runInterval | retryInterval => .numeral Text.max64
  | maxAttempts => .numeral Text.max32
  | backend => .backend
  | lockEnabled => .flag
  | watchServices => .list
  | serviceName | advertiseAddress | consulAddress | lockKey | logLevel | logFormat => .text

def get : (v : Variable) → Config → v.writing.Value
  | serviceName, c => c.node.serviceName
  | advertiseAddress, c => c.node.advertiseAddress
  | heartbeatInterval, c => c.node.heartbeatIntervalSecs
  | backend, c => c.discovery.backend
  | consulAddress, c => c.discovery.consulAddress
  | checkTtl, c => c.discovery.checkTtlSecs
  | lockEnabled, c => c.lock.enabled
  | lockKey, c => c.lock.key
  | sessionTtl, c => c.lock.sessionTtlSecs
  | runInterval, c => c.lock.runIntervalSecs
  | watchServices, c => c.lock.watchServices
  | maxAttempts, c => c.retry.maxAttempts
  | retryInterval, c => c.retry.intervalMs
  | logLevel, c => c.logging.level
  | logFormat, c => c.logging.format

def all : List Variable :=
  [serviceName, advertiseAddress, heartbeatInterval, backend, consulAddress, checkTtl, lockEnabled,
    lockKey, sessionTtl, runInterval, watchServices, maxAttempts, retryInterval, logLevel,
    logFormat]

theorem mem_all (v : Variable) : v ∈ all := by
  cases v <;> decide

theorem map_name_all : all.map name = variableNames := rfl

theorem name_injective : Function.Injective name := by
  have hnodup : (all.map name).Nodup := by decide
  intro v w h
  exact List.inj_on_of_nodup_map hnodup (mem_all v) (mem_all w) h

theorem name_mem (v : Variable) : v.name ∈ variableNames := by
  rw [← map_name_all]
  exact List.mem_map_of_mem (mem_all v)

end Variable

/-- The configurations agree on the fields that no variable sets. -/
structure SameElsewhere (c c' : Config) : Prop where
  deregisterCriticalAfter :
    c.discovery.deregisterCriticalAfterSecs = c'.discovery.deregisterCriticalAfterSecs
  livenessMultiplier : c.discovery.livenessMultiplier = c'.discovery.livenessMultiplier
  requestTimeout : c.discovery.requestTimeoutSecs = c'.discovery.requestTimeoutSecs
  retryBackoff : c.lock.retryBackoffSecs = c'.lock.retryBackoffSecs
  workTimeout : c.lock.workTimeoutSecs = c'.lock.workTimeoutSecs

variable {c c' : Config} {env env' : Environment}

theorem SameElsewhere.eq (he : c.SameElsewhere c') (h : ∀ v : Variable, v.get c = v.get c') :
    c = c' := by
  obtain ⟨⟨_, _, _⟩, ⟨_, _, _, _, _, _⟩, ⟨_, _, _, _, _, _, _⟩, ⟨_, _⟩, ⟨_, _⟩⟩ := c
  obtain ⟨⟨_, _, _⟩, ⟨_, _, _, _, _, _⟩, ⟨_, _, _, _, _, _, _⟩, ⟨_, _⟩, ⟨_, _⟩⟩ := c'
  obtain ⟨rfl, rfl, rfl, rfl, rfl⟩ := he
  obtain rfl := h .serviceName
  obtain rfl := h .advertiseAddress
  obtain rfl := h .heartbeatInterval
  obtain rfl := h .backend
  obtain rfl := h .consulAddress
  obtain rfl := h .checkTtl
  obtain rfl := h .lockEnabled
  obtain rfl := h .lockKey
  obtain rfl := h .sessionTtl
  obtain rfl := h .runInterval
  obtain rfl := h .watchServices
  obtain rfl := h .maxAttempts
  obtain rfl := h .retryInterval
  obtain rfl := h .logLevel
  obtain rfl := h .logFormat
  rfl

theorem SameElsewhere.trans {c'' : Config} (h : c.SameElsewhere c') (h' : c'.SameElsewhere c'') :
    c.SameElsewhere c'' where
  deregisterCriticalAfter := h.deregisterCriticalAfter.trans h'.deregisterCriticalAfter
  livenessMultiplier := h.livenessMultiplier.trans h'.livenessMultiplier
  requestTimeout := h.requestTimeout.trans h'.requestTimeout
  retryBackoff := h.retryBackoff.trans h'.retryBackoff
  workTimeout := h.workTimeout.trans h'.workTimeout

theorem SameElsewhere.symm (h : c.SameElsewhere c') : c'.SameElsewhere c where
  deregisterCriticalAfter := h.deregisterCriticalAfter.symm
  livenessMultiplier := h.livenessMultiplier.symm
  requestTimeout := h.requestTimeout.symm
  retryBackoff := h.retryBackoff.symm
  workTimeout := h.workTimeout.symm

namespace Variable

/-- The variable is set to a text that says the value. -/
def Holds (v : Variable) (env : Environment) (value : v.writing.Value) : Prop :=
  ∃ s, env.lookup v.name = some s.toUTF8 ∧ v.writing.Says s value

def found (v : Variable) (env : Environment) : Option v.writing.Value :=
  (env.text? v.name).bind v.writing.read

theorem found_eq_some_iff (v : Variable) {value : v.writing.Value} :
    v.found env = some value ↔ v.Holds env value := by
  unfold found Holds
  rw [Option.bind_eq_some_iff]
  simp only [Environment.text?_eq_some_iff, Writing.read_eq_some_iff]

theorem found_eq_none_iff (v : Variable) : v.found env = none ↔ ¬ ∃ value, v.Holds env value := by
  simp only [← found_eq_some_iff, Option.eq_none_iff_forall_ne_some, not_exists, ne_eq]

theorem found_backend : backend.found env =
    (env.text? backendVar).bind fun s => BackendChoice.ofName? (Text.lowercase s) := rfl

theorem found_congr (v : Variable) (h : env'.lookup v.name = env.lookup v.name) :
    v.found env' = v.found env := by
  unfold found Environment.text?
  rw [h]

end Variable

def unknownBackend (s : String) : String :=
  "unknown discovery backend: " ++ Text.lowercase s

theorem backend_cases (env : Environment) :
    (∃ s, env.lookup backendVar = some s.toUTF8 ∧
      (Text.lowercase s ≠ "memory" ∧ Text.lowercase s ≠ "consul") ∧
      ofEnvironment env = .error (unknownBackend s)) ∨
    ofEnvironment env = .ok
      (ofVariables env ((Variable.backend.found env).getD standard.discovery.backend)) := by
  rw [Variable.found_backend]
  unfold ofEnvironment backendOfEnvironment
  cases htext : env.text? backendVar with
  | none => exact .inr rfl
  | some s =>
    rw [Option.bind_some]
    dsimp only
    cases hname : BackendChoice.ofName? (Text.lowercase s) with
    | some choice => exact .inr rfl
    | none =>
      refine .inl ⟨s, Environment.text?_eq_some_iff.mp htext, ?_, rfl⟩
      unfold BackendChoice.ofName? at hname
      split_ifs at hname with hmemory hconsul
      exact ⟨hmemory, hconsul⟩

theorem ofEnvironment_eq_error_iff {e : String} : ofEnvironment env = .error e ↔
    ∃ s, env.lookup backendVar = some s.toUTF8 ∧
      (Text.lowercase s ≠ "memory" ∧ Text.lowercase s ≠ "consul") ∧ e = unknownBackend s := by
  constructor
  · intro h
    rcases backend_cases env with ⟨s, hset, hname, herror⟩ | hok
    · cases herror.symm.trans h
      exact ⟨s, hset, hname, rfl⟩
    · cases hok.symm.trans h
  · rintro ⟨s, hset, ⟨hmemory, hconsul⟩, rfl⟩
    unfold ofEnvironment backendOfEnvironment
    rw [Environment.text?_eq_some_iff.mpr hset]
    unfold BackendChoice.ofName?
    dsimp only
    rw [if_neg hmemory, if_neg hconsul]
    rfl

theorem eq_of_ofEnvironment (h : ofEnvironment env = .ok c) :
    c = ofVariables env ((Variable.backend.found env).getD standard.discovery.backend) := by
  rcases backend_cases env with ⟨s, -, -, herror⟩ | hok
  · cases herror.symm.trans h
  · cases hok.symm.trans h
    rfl

theorem sameElsewhere_of_ofEnvironment (h : ofEnvironment env = .ok c) :
    c.SameElsewhere standard := by
  rw [eq_of_ofEnvironment h]
  exact ⟨rfl, rfl, rfl, rfl, rfl⟩

/-- Each field is what its variable is read as, or the default. -/
theorem get_of_ofEnvironment (h : ofEnvironment env = .ok c) (v : Variable) :
    v.get c = (v.found env).getD (v.get standard) := by
  rw [eq_of_ofEnvironment h]
  unfold Variable.found
  cases v with
  | serviceName | advertiseAddress | consulAddress | lockKey | logLevel | logFormat =>
    exact congrArg (Option.getD · _) (Writing.bind_read_text _).symm
  | watchServices => exact congrArg (Option.getD · _) (Writing.bind_read_list _).symm
  | backend | lockEnabled | heartbeatInterval | checkTtl | sessionTtl | runInterval | maxAttempts
  | retryInterval => rfl

theorem get_eq_of_holds (h : ofEnvironment env = .ok c) {v : Variable} {value : v.writing.Value}
    (hv : v.Holds env value) : v.get c = value := by
  rw [get_of_ofEnvironment h, v.found_eq_some_iff.mpr hv, Option.getD_some]

theorem get_eq_standard (h : ofEnvironment env = .ok c) {v : Variable}
    (hv : ¬ ∃ value, v.Holds env value) : v.get c = v.get standard := by
  rw [get_of_ofEnvironment h, v.found_eq_none_iff.mpr hv, Option.getD_none]

theorem get_congr (h : ofEnvironment env = .ok c) (h' : ofEnvironment env' = .ok c')
    {v : Variable} (hv : env'.lookup v.name = env.lookup v.name) : v.get c' = v.get c := by
  rw [get_of_ofEnvironment h, get_of_ofEnvironment h', v.found_congr hv]

/-- Only the choice of a backend can make it fail. -/
theorem succeeds_congr (h : ofEnvironment env = .ok c)
    (hbackend : env'.lookup backendVar = env.lookup backendVar) :
    ∃ c', ofEnvironment env' = .ok c' := by
  cases h' : ofEnvironment env' with
  | ok c' => exact ⟨c', rfl⟩
  | error e =>
    have hfails := ofEnvironment_eq_error_iff.mp h'
    rw [hbackend] at hfails
    cases h.symm.trans (ofEnvironment_eq_error_iff.mpr hfails)

theorem ofEnvironment_congr (h : ∀ v : Variable, env'.lookup v.name = env.lookup v.name) :
    ofEnvironment env' = ofEnvironment env := by
  have hbackend : env'.lookup backendVar = env.lookup backendVar := h .backend
  cases hc : ofEnvironment env with
  | ok c =>
    obtain ⟨c', hc'⟩ := succeeds_congr hc hbackend
    have helse := sameElsewhere_of_ofEnvironment hc'
    have hsame := helse.trans (sameElsewhere_of_ofEnvironment hc).symm
    rw [hc', hsame.eq fun v => get_congr hc hc' (h v)]
  | error e =>
    have hfails := ofEnvironment_eq_error_iff.mp hc
    rw [← hbackend] at hfails
    exact ofEnvironment_eq_error_iff.mpr hfails

theorem ofEnvironment_of_holds (he : c.SameElsewhere standard)
    (h : ∀ v : Variable, v.Holds env (v.get c)) : ofEnvironment env = .ok c := by
  cases h' : ofEnvironment env with
  | ok c' =>
    have helse := (sameElsewhere_of_ofEnvironment h').trans he.symm
    rw [helse.eq fun v => get_eq_of_holds h' (h v)]
  | error e =>
    obtain ⟨s, hset, ⟨hmemory, hconsul⟩, -⟩ := ofEnvironment_eq_error_iff.mp h'
    obtain ⟨s', hset', hspells⟩ := h .backend
    -- One variable cannot hold both a text that names no backend and one that names the field's.
    have hsame : s = s' := by
      rw [← Option.some_inj, ← Environment.text?_eq_some_iff.mpr hset,
        ← Environment.text?_eq_some_iff.mpr hset']
      rfl
    subst hsame
    change Text.lowercase s = c.discovery.backend.name at hspells
    cases hchoice : c.discovery.backend with
    | memory => exact absurd (hspells.trans (congrArg BackendChoice.name hchoice)) hmemory
    | consul => exact absurd (hspells.trans (congrArg BackendChoice.name hchoice)) hconsul

def toEnvironment (c : Config) : Environment :=
  Variable.all.map fun v => (v.name, (v.writing.print (v.get c)).toUTF8)

theorem lookup_map_name {β : Type} (f : Variable → β) {vs : List Variable} {v : Variable}
    (hv : v ∈ vs) : (vs.map fun w => (w.name, f w)).lookup v.name = some (f v) := by
  induction vs with
  | nil => cases hv
  | cons w vs ih =>
    rw [List.map_cons]
    by_cases hw : v = w
    · subst hw
      exact List.lookup_cons_self
    · have hne : (v.name == w.name) = false := by
        rw [beq_eq_false_iff_ne]
        exact fun heq => hw (Variable.name_injective heq)
      rw [List.lookup_cons, hne]
      exact ih (List.mem_of_ne_of_mem hw hv)

theorem lookup_toEnvironment (v : Variable) :
    c.toEnvironment.lookup v.name = some (v.writing.print (v.get c)).toUTF8 :=
  lookup_map_name (fun v => (v.writing.print (v.get c)).toUTF8) v.mem_all

/-- A configuration with defaults in the fields that no variable sets comes back from every
environment in which each variable is set to the text of its field. Only a backend that is not
known makes an environment fail. Where it does not, a field has the value that its variable holds,
or the default if the variable holds none: it is not set, its bytes are no text, or the text says
no value of the field. So another value of one variable leaves all other fields, and variables of
other names do not matter. -/
theorem ofEnvironment_fieldwise :
    (∀ c : Config, c.SameElsewhere standard → (∀ v : Variable, v.writing.Printable (v.get c)) →
      ∀ env : Environment,
        (∀ v : Variable, env.lookup v.name = some (v.writing.print (v.get c)).toUTF8) →
        ofEnvironment env = .ok c) ∧
    (∀ env : Environment, (∃ e, ofEnvironment env = .error e) ↔
      ∃ s, env.lookup backendVar = some s.toUTF8 ∧
        Text.lowercase s ≠ "memory" ∧ Text.lowercase s ≠ "consul") ∧
    (∀ env c, ofEnvironment env = .ok c → c.SameElsewhere standard ∧ ∀ v : Variable,
      (∀ value, v.Holds env value → v.get c = value) ∧
      ((¬ ∃ value, v.Holds env value) → v.get c = v.get standard)) ∧
    (∀ (env env' : Environment) (v : Variable) (c : Config), ofEnvironment env = .ok c →
      (∀ name ≠ v.name, env'.lookup name = env.lookup name) →
      (v ≠ .backend → ∃ c', ofEnvironment env' = .ok c') ∧
      ∀ c', ofEnvironment env' = .ok c' → c'.SameElsewhere c ∧ ∀ w ≠ v, w.get c' = w.get c) ∧
    ∀ (env env' : Environment) (name : String), name ∉ variableNames →
      (∀ other ≠ name, env'.lookup other = env.lookup other) →
      ofEnvironment env' = ofEnvironment env := by
  refine ⟨?_, ?_, ?_, ?_, ?_⟩
  · intro c he hprintable env hset
    apply ofEnvironment_of_holds he
    intro v
    exact ⟨_, hset v, v.writing.says_print (hprintable v)⟩
  · intro env
    constructor
    · rintro ⟨e, h⟩
      obtain ⟨s, hset, hname, -⟩ := ofEnvironment_eq_error_iff.mp h
      exact ⟨s, hset, hname⟩
    · rintro ⟨s, hset, hname⟩
      exact ⟨_, ofEnvironment_eq_error_iff.mpr ⟨s, hset, hname, rfl⟩⟩
  · intro env c h
    exact ⟨sameElsewhere_of_ofEnvironment h,
      fun v => ⟨fun value => get_eq_of_holds h, get_eq_standard h⟩⟩
  · intro env env' v c h hframe
    constructor
    · intro hv
      apply succeeds_congr h
      apply hframe
      exact fun heq => hv (Variable.name_injective heq.symm)
    · intro c' h'
      refine ⟨?_, fun w hw => get_congr h h' (hframe _ (Variable.name_injective.ne hw))⟩
      exact (sameElsewhere_of_ofEnvironment h').trans (sameElsewhere_of_ofEnvironment h).symm
  · intro env env' name hname hframe
    apply ofEnvironment_congr
    intro v
    apply hframe
    rintro rfl
    exact hname v.name_mem

theorem ofEnvironment_fieldwise_about_services :
    let c : Config := { lock := { watchServices := ["movie", "rating 2"] } }
    ofEnvironment c.toEnvironment = .ok c ∧
      (∃ c', ofEnvironment ((watchServicesVar, ⟨#[0xFF]⟩) :: c.toEnvironment) = .ok c' ∧
        c'.lock.watchServices = standard.lock.watchServices) ∧
      ∃ e, ofEnvironment [(backendVar, "etcd".toUTF8)] = .error e := by
  intro c
  obtain ⟨hround, hfails, hfields, hframe, -⟩ := ofEnvironment_fieldwise
  have hprintable : ∀ v : Variable, v.writing.Printable (v.get c) := by
    intro v
    cases v with
    | watchServices =>
      intro name hname
      rcases List.mem_pair.mp hname with rfl | rfl
      · exact ⟨by decide, by decide, by rintro c (hc | hc) <;> cases hc <;> decide⟩
      · exact ⟨by decide, by decide, by rintro c (hc | hc) <;> cases hc <;> decide⟩
    | heartbeatInterval | checkTtl | sessionTtl | runInterval | retryInterval | maxAttempts =>
      exact Nat.le_of_ble_eq_true rfl
    | serviceName | advertiseAddress | backend | consulAddress | lockEnabled | lockKey | logLevel
    | logFormat => exact True.intro
  have hc := hround c ⟨rfl, rfl, rfl, rfl, rfl⟩ hprintable c.toEnvironment lookup_toEnvironment
  refine ⟨hc, ?_, ?_⟩
  · have hrest : ∀ name ≠ Variable.watchServices.name,
        ((watchServicesVar, ⟨#[0xFF]⟩) :: c.toEnvironment).lookup name =
          c.toEnvironment.lookup name := by
      intro name hname
      have hne : (name == watchServicesVar) = false := beq_eq_false_iff_ne.mpr hname
      rw [List.lookup_cons, hne]
    obtain ⟨hok, hsame⟩ := hframe c.toEnvironment _ .watchServices c hc hrest
    obtain ⟨c', hc'⟩ := hok (by decide)
    have hnone : ¬ ∃ value, Variable.watchServices.Holds
        ((watchServicesVar, ⟨#[0xFF]⟩) :: c.toEnvironment) value := by
      rw [← Variable.found_eq_none_iff]
      rfl
    exact ⟨c', hc', ((hfields _ c' hc').2 .watchServices).2 hnone⟩
  · apply (hfails _).mpr
    exact ⟨"etcd", rfl, by decide +kernel, by decide +kernel⟩

end Config

end Rollcall
