import Mathlib
import Rollcall.Config.File
import Rollcall.Proofs.Config.Fields
import Rollcall.Proofs.Data.Table
import Rollcall.Proofs.Text.ByteOrder

/-!
# The fields of a configuration in a document

A section that is missing reads as an empty one, so there is only one way in which a field can be
missing. A document then reads as a configuration if its sections can hold fields and each field
reads as the configuration has it; in tables without repeated names that is what the document names,
and the default where it names nothing.
-/

namespace Rollcall

namespace Document

/-- A table in which no name stands twice. -/
def IsTable (d : Document) : Prop := ∃ t : Table String Document, d = table t.entries ∧ t.Unique

def Holds (d : Document) (name : String) (value : Document) : Prop :=
  ∃ t : Table String Document, d = table t.entries ∧ t.Unique ∧ (name, value) ∈ t.entries

variable {d value : Document} {name : String}

theorem IsTable.isSection (h : d.IsTable) : d.isSection = true := by
  obtain ⟨t, rfl, -⟩ := h
  rfl

theorem Holds.slot_eq (h : d.Holds name value) (place : ℕ) : d.slot place name = some value := by
  obtain ⟨t, rfl, hunique, hmem⟩ := h
  exact hunique.get?_of_mem hmem

theorem IsTable.holds_of_slot (h : d.IsTable) {place : ℕ} (hslot : d.slot place name = some value) :
    d.Holds name value := by
  obtain ⟨t, rfl, hunique⟩ := h
  exact ⟨t, rfl, hunique, Table.mem_entries_of_get? hslot⟩

variable {α : Type} {default : α} {as : Document → Option α} {place : ℕ}

theorem fieldOr_of_slot (h : d.slot place name = some value) :
    d.fieldOr place name default as = as value := by
  unfold fieldOr
  rw [h]

theorem fieldOr_of_slot_eq_none (h : d.slot place name = none) :
    d.fieldOr place name default as = some default := by
  unfold fieldOr
  rw [h]

/-- What reads as the default when it is empty may as well be empty as missing. -/
theorem fieldOr_eq (h : as (table []) = some default) :
    d.fieldOr place name default as = as ((d.slot place name).getD (table [])) := by
  unfold fieldOr
  cases d.slot place name with
  | none => exact h.symm
  | some value => rfl

end Document

namespace Config

open Document

variable {c : Config} {d value : Document}

def Section.part (s : Section) (d : Document) : Document :=
  (d.slot s.place s.name).getD (.table [])

def Field.slot (f : Field) (d : Document) : Option Document := d.slot f.place f.name

def Field.read (f : Field) (d : Document) : Option f.form.Value :=
  d.fieldOr f.place f.name (f.get standard) f.form.read

/-- The section reads as the configuration has it. -/
structure Section.Agrees (s : Section) (d : Document) (c : Config) : Prop where
  isSection : d.isSection = true
  read_eq : ∀ f : Field, f.home = s → f.read d = some (f.get c)

/-- The settings of a section are read if all its fields are. The same holds of the other sections,
each with its own fields. -/
theorem node_eq_some_iff : NodeSettings.ofDocument d = some c.node ↔ Section.node.Agrees d c := by
  simp only [NodeSettings.ofDocument, Option.bind_eq_bind, Option.bind_eq_some_iff,
    Option.pure_def, Option.some.injEq, Option.guard_eq_some', exists_const]
  constructor
  · obtain ⟨node, _, _, _, _⟩ := c
    rintro ⟨hsection, name, hname, address, haddress, interval, hinterval, rfl⟩
    refine ⟨hsection, fun f hf => ?_⟩
    cases f with
    | serviceName => exact hname
    | advertiseAddress => exact haddress
    | heartbeatInterval => exact hinterval
    | _ => cases hf
  · intro h
    exact ⟨h.isSection, _, h.read_eq .serviceName rfl, _, h.read_eq .advertiseAddress rfl,
      _, h.read_eq .heartbeatInterval rfl, rfl⟩

theorem discovery_eq_some_iff :
    DiscoverySettings.ofDocument d = some c.discovery ↔ Section.discovery.Agrees d c := by
  simp only [DiscoverySettings.ofDocument, Option.bind_eq_bind, Option.bind_eq_some_iff,
    Option.pure_def, Option.some.injEq, Option.guard_eq_some', exists_const]
  constructor
  · obtain ⟨_, discovery, _, _, _⟩ := c
    rintro ⟨hsection, backend, hbackend, address, haddress, ttl, httl, after, hafter, multiplier,
      hmultiplier, timeout, htimeout, rfl⟩
    refine ⟨hsection, fun f hf => ?_⟩
    cases f with
    | backend => exact hbackend
    | consulAddress => exact haddress
    | checkTtl => exact httl
    | deregisterCriticalAfter => exact hafter
    | livenessMultiplier => exact hmultiplier
    | requestTimeout => exact htimeout
    | _ => cases hf
  · intro h
    exact ⟨h.isSection, _, h.read_eq .backend rfl, _, h.read_eq .consulAddress rfl,
      _, h.read_eq .checkTtl rfl, _, h.read_eq .deregisterCriticalAfter rfl,
      _, h.read_eq .livenessMultiplier rfl, _, h.read_eq .requestTimeout rfl, rfl⟩

theorem lock_eq_some_iff : LockSettings.ofDocument d = some c.lock ↔ Section.lock.Agrees d c := by
  simp only [LockSettings.ofDocument, Option.bind_eq_bind, Option.bind_eq_some_iff,
    Option.pure_def, Option.some.injEq, Option.guard_eq_some', exists_const]
  constructor
  · obtain ⟨_, _, lock, _, _⟩ := c
    rintro ⟨hsection, enabled, henabled, key, hkey, ttl, httl, backoff, hbackoff, timeout, htimeout,
      interval, hinterval, services, hservices, rfl⟩
    refine ⟨hsection, fun f hf => ?_⟩
    cases f with
    | lockEnabled => exact henabled
    | lockKey => exact hkey
    | sessionTtl => exact httl
    | retryBackoff => exact hbackoff
    | workTimeout => exact htimeout
    | runInterval => exact hinterval
    | watchServices => exact hservices
    | _ => cases hf
  · intro h
    exact ⟨h.isSection, _, h.read_eq .lockEnabled rfl, _, h.read_eq .lockKey rfl,
      _, h.read_eq .sessionTtl rfl, _, h.read_eq .retryBackoff rfl, _, h.read_eq .workTimeout rfl,
      _, h.read_eq .runInterval rfl, _, h.read_eq .watchServices rfl, rfl⟩

theorem retry_eq_some_iff :
    RetrySettings.ofDocument d = some c.retry ↔ Section.retry.Agrees d c := by
  simp only [RetrySettings.ofDocument, Option.bind_eq_bind, Option.bind_eq_some_iff,
    Option.pure_def, Option.some.injEq, Option.guard_eq_some', exists_const]
  constructor
  · obtain ⟨_, _, _, retry, _⟩ := c
    rintro ⟨hsection, attempts, hattempts, interval, hinterval, rfl⟩
    refine ⟨hsection, fun f hf => ?_⟩
    cases f with
    | maxAttempts => exact hattempts
    | retryInterval => exact hinterval
    | _ => cases hf
  · intro h
    exact ⟨h.isSection, _, h.read_eq .maxAttempts rfl, _, h.read_eq .retryInterval rfl, rfl⟩

theorem logging_eq_some_iff :
    LoggingSettings.ofDocument d = some c.logging ↔ Section.logging.Agrees d c := by
  simp only [LoggingSettings.ofDocument, Option.bind_eq_bind, Option.bind_eq_some_iff,
    Option.pure_def, Option.some.injEq, Option.guard_eq_some', exists_const]
  constructor
  · obtain ⟨_, _, _, _, logging⟩ := c
    rintro ⟨hsection, level, hlevel, format, hformat, rfl⟩
    refine ⟨hsection, fun f hf => ?_⟩
    cases f with
    | logLevel => exact hlevel
    | logFormat => exact hformat
    | _ => cases hf
  · intro h
    exact ⟨h.isSection, _, h.read_eq .logLevel rfl, _, h.read_eq .logFormat rfl, rfl⟩

/-- What is read of a document is what all its sections agree on. -/
theorem ofDocument_eq_some_iff : ofDocument d = some c ↔
    d.isSection = true ∧ ∀ s : Section, s.Agrees (s.part d) c := by
  -- All fields of an empty section keep their defaults, so a missing section is read like it.
  have hnode : d.fieldOr 0 "node" {} NodeSettings.ofDocument =
      NodeSettings.ofDocument (Section.node.part d) := fieldOr_eq rfl
  have hdiscovery : d.fieldOr 1 "discovery" {} DiscoverySettings.ofDocument =
      DiscoverySettings.ofDocument (Section.discovery.part d) := fieldOr_eq rfl
  have hlock : d.fieldOr 2 "lock" {} LockSettings.ofDocument =
      LockSettings.ofDocument (Section.lock.part d) := fieldOr_eq rfl
  have hretry : d.fieldOr 3 "retry" {} RetrySettings.ofDocument =
      RetrySettings.ofDocument (Section.retry.part d) := fieldOr_eq rfl
  have hlogging : d.fieldOr 4 "logging" {} LoggingSettings.ofDocument =
      LoggingSettings.ofDocument (Section.logging.part d) := fieldOr_eq rfl
  simp only [ofDocument, Option.bind_eq_bind, Option.bind_eq_some_iff, Option.pure_def,
    Option.some.injEq, Option.guard_eq_some', exists_const, hnode, hdiscovery, hlock, hretry,
    hlogging]
  constructor
  · rintro ⟨hsection, node, hnode, discovery, hdiscovery, lock, hlock, retry, hretry, logging,
      hlogging, rfl⟩
    refine ⟨hsection, fun s => ?_⟩
    cases s with
    | node => exact node_eq_some_iff.mp hnode
    | discovery => exact discovery_eq_some_iff.mp hdiscovery
    | lock => exact lock_eq_some_iff.mp hlock
    | retry => exact retry_eq_some_iff.mp hretry
    | logging => exact logging_eq_some_iff.mp hlogging
  · rintro ⟨hsection, h⟩
    exact ⟨hsection, _, node_eq_some_iff.mpr (h .node), _, discovery_eq_some_iff.mpr (h .discovery),
      _, lock_eq_some_iff.mpr (h .lock), _, retry_eq_some_iff.mpr (h .retry),
      _, logging_eq_some_iff.mpr (h .logging), rfl⟩

/-- The document names the field, and gives it the value. -/
def Field.NamedIn (f : Field) (d value : Document) : Prop :=
  ∃ part, d.Holds f.home.name part ∧ part.Holds f.name value

/-- A table in which every section that is there is a table. What it has under other names may be
anything. -/
structure Sectioned (d : Document) : Prop where
  isTable : d.IsTable
  part_isTable : ∀ (s : Section) part, d.Holds s.name part → part.IsTable

variable {f : Field}

theorem Field.NamedIn.slot_eq (h : f.NamedIn d value) : f.slot (f.home.part d) = some value := by
  obtain ⟨part, hpart, hvalue⟩ := h
  unfold Section.part
  rw [hpart.slot_eq, Option.getD_some]
  exact hvalue.slot_eq f.place

namespace Sectioned

theorem namedIn_iff (hd : Sectioned d) :
    f.NamedIn d value ↔ f.slot (f.home.part d) = some value := by
  refine ⟨Field.NamedIn.slot_eq, fun hvalue => ?_⟩
  unfold Section.part at hvalue
  cases hpart : d.slot f.home.place f.home.name with
  | none =>
    rw [hpart] at hvalue
    cases hvalue
  | some part =>
    rw [hpart] at hvalue
    have hholds := hd.isTable.holds_of_slot hpart
    exact ⟨part, hholds, (hd.part_isTable f.home part hholds).holds_of_slot hvalue⟩

theorem named_iff (hd : Sectioned d) {given : Option f.form.Value} :
    (∀ value, f.NamedIn d value ↔ ∃ v, given = some v ∧ value = f.form.write v) ↔
      f.slot (f.home.part d) = given.map f.form.write := by
  rw [Option.ext_iff]
  refine forall_congr' fun value => ?_
  rw [hd.namedIn_iff, Option.map_eq_some_iff]
  simp only [@eq_comm _ value]

theorem isSection_part (hd : Sectioned d) (s : Section) : (s.part d).isSection = true := by
  unfold Section.part
  cases hpart : d.slot s.place s.name with
  | none => rfl
  | some part => exact (hd.part_isTable s part (hd.isTable.holds_of_slot hpart)).isSection

end Sectioned

/-- Fields with fitting values are taken over, and all others keep their defaults. -/
theorem ofDocument_of_named (hd : Sectioned d) {given : (f : Field) → Option f.form.Value}
    (hnamed : ∀ f : Field, f.slot (f.home.part d) = (given f).map f.form.write)
    (hfits : ∀ f v, given f = some v → f.form.Fits v) :
    ofDocument d = some (standard.override given) := by
  refine ofDocument_eq_some_iff.mpr ⟨hd.isTable.isSection, fun s => ⟨hd.isSection_part s, ?_⟩⟩
  rintro f rfl
  have hslot := hnamed f
  rw [get_override]
  cases hf : given f with
  | none =>
    rw [hf] at hslot
    exact fieldOr_of_slot_eq_none hslot
  | some v =>
    rw [hf] at hslot
    exact (fieldOr_of_slot hslot).trans (f.form.read_write (hfits f v hf))

theorem ofDocument_of_refused (h : f.NamedIn d value) (hrefuses : f.form.Refuses value) :
    ofDocument d = none := by
  rw [Option.eq_none_iff_forall_ne_some]
  intro c hc
  have hread : f.read (f.home.part d) = some (f.get c) :=
    ((ofDocument_eq_some_iff.mp hc).2 f.home).read_eq f rfl
  have hnone : f.read (f.home.part d) = none :=
    (fieldOr_of_slot h.slot_eq).trans hrefuses.read_eq_none
  cases hread.symm.trans hnone

theorem slot_toDocument (c : Config) (f : Field) :
    f.slot (f.home.part c.toDocument) = some (f.form.write (f.get c)) := by
  cases f <;> rfl

theorem ofDocument_toDocument (h : ∀ f : Field, f.form.Fits (f.get c)) :
    ofDocument c.toDocument = some c := by
  refine ofDocument_eq_some_iff.mpr ⟨rfl, fun s => ⟨?_, ?_⟩⟩
  · cases s <;> rfl
  · rintro f rfl
    exact (fieldOr_of_slot (slot_toDocument c f)).trans (f.form.read_write (h f))

theorem ofFile_eq {s : String} (h : Toml.read s = some d) :
    ofFile (some s.toUTF8) = (ofDocument d).elim (.error .malformed) .ok := by
  have hof : ofToml? s = ofDocument d := by
    unfold ofToml?
    rw [h, Option.bind_some]
  have htext : (some s.toUTF8).bind String.fromUTF8? = some s :=
    Text.fromUTF8?_eq_some_iff.mpr rfl
  unfold ofFile
  rw [htext]
  dsimp only
  rw [hof]
  cases ofDocument d with
  | none => rfl
  | some c => rfl

/-- Let the sections of a document be tables, which may hold anything under names of no field, and
let some of the fields be named, each with the written form of a value that fits it. Then the
document is read, and gives the default configuration with these values in place of its own. A field
that is named with anything else makes a document unreadable, whatever else that holds; only for the
backend a table may do. A configuration comes back from the document that names all its fields, if
its numbers are within their bounds. And a file gives what its document gives. -/
theorem ofDocument_overrides :
    (∀ (d : Document) (given : (f : Field) → Option f.form.Value), Sectioned d →
      (∀ f value, f.NamedIn d value ↔ ∃ v, given f = some v ∧ value = f.form.write v) →
      (∀ f v, given f = some v → f.form.Fits v) →
      ofDocument d = some (standard.override given)) ∧
    (∀ (d value : Document) (f : Field), f.NamedIn d value → f.form.Refuses value →
      ofDocument d = none) ∧
    (∀ c : Config, (∀ f : Field, f.form.Fits (f.get c)) → ofDocument c.toDocument = some c) ∧
    ∀ (s : String) (d : Document), Toml.read s = some d →
      ofFile (some s.toUTF8) = (ofDocument d).elim (.error .malformed) .ok := by
  refine ⟨?_, ?_, ?_, ?_⟩
  · intro d given hd hnamed hfits
    exact ofDocument_of_named hd (fun f => hd.named_iff.mp (hnamed f)) hfits
  · intro d value f hnamed hrefuses
    exact ofDocument_of_refused hnamed hrefuses
  · intro c hfits
    exact ofDocument_toDocument hfits
  · intro s d hread
    exact ofFile_eq hread

theorem ofDocument_overrides_about_sections :
    ofFile (some "cache=1\n[lock]\nowner=2\nenabled=true".toUTF8) =
        .ok { lock := { enabled := true } } ∧
      (∀ value ∈ [.text "3", .int (-1), .nat (Text.max32 + 1), .null],
        ∀ others : List (String × Document), ("retry" :: others.map (·.1)).Nodup →
          ofDocument (.table (("retry", .table [("max_attempts", value)]) :: others)) = none) ∧
      ofDocument (.table [("discovery", .table [("backend", .text "Consul")])]) = none ∧
      let c : Config := { discovery := { deregisterCriticalAfterSecs := some Text.max64 } }
      ofDocument c.toDocument = some c := by
  obtain ⟨hreads, hrefuses, hround, hfile⟩ := ofDocument_overrides
  refine ⟨?_, ?_, ?_, ?_⟩
  · let d : Document :=
      .table [("cache", .int 1), ("lock", .table [("owner", .int 2), ("enabled", .bool true)])]
    let given : (f : Field) → Option f.form.Value
      | .lockEnabled => some true
      | _ => none
    have hd : Sectioned d := by
      refine ⟨⟨⟨_⟩, rfl, by unfold Table.Unique; decide⟩, fun s part hpart => ?_⟩
      have hslot := hpart.slot_eq s.place
      cases s with
      | lock =>
        cases hslot
        exact ⟨⟨_⟩, rfl, by unfold Table.Unique; decide⟩
      | _ => cases hslot
    have hnamed : ∀ f : Field, f.slot (f.home.part d) = (given f).map f.form.write := by
      intro f
      cases f <;> rfl
    have hfits : ∀ f v, given f = some v → f.form.Fits v := by
      intro f v hv
      cases f with
      | lockEnabled => exact True.intro
      | _ => cases hv
    have hread : Toml.read "cache=1\n[lock]\nowner=2\nenabled=true" = some d := by cbv
    rw [hfile _ _ hread, hreads d given hd (fun f => hd.named_iff.mpr (hnamed f)) hfits]
    rfl
  · intro value hvalue others hothers
    refine hrefuses _ value .maxAttempts ⟨_, ⟨⟨_⟩, rfl, hothers, List.mem_cons_self⟩,
      ⟨⟨_⟩, rfl, List.nodup_singleton _, List.mem_singleton_self _⟩⟩ ⟨?_, ?_⟩
    · intro (n : ℕ) (hn : n ≤ Text.max32) (heq : value = .int n)
      have hnumber : (n : ℤ) = -1 ∨ (n : ℤ) = (Text.max32 + 1 : ℕ) := by
        simpa [heq, Document.nat] using hvalue
      omega
    · intro hform
      cases hform
  · refine hrefuses _ (.text "Consul") .backend ⟨_, ⟨⟨_⟩, rfl, List.nodup_singleton _,
      List.mem_singleton_self _⟩, ⟨⟨_⟩, rfl, List.nodup_singleton _, List.mem_singleton_self _⟩⟩
      ⟨?_, ?_⟩
    · intro choice _ heq
      have hname : "Consul" = choice.name := Document.text.inj heq
      cases choice with
      | memory => exact absurd hname (by decide)
      | consul => exact absurd hname (by decide)
    · intro _ fields heq
      cases heq
  · apply hround
    intro f
    cases f with
    | deregisterCriticalAfter =>
      rintro k ⟨⟩
      exact le_rfl
    | heartbeatInterval | checkTtl | livenessMultiplier | requestTimeout | sessionTtl
    | retryBackoff | workTimeout | runInterval | maxAttempts | retryInterval =>
      exact Nat.le_of_ble_eq_true rfl
    | serviceName | advertiseAddress | backend | consulAddress | lockEnabled | lockKey
    | watchServices | logLevel | logFormat => exact True.intro

end Config

end Rollcall
