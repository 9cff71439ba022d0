import Rollcall.Proofs.Consul.Operations

/-!
# What the paths of requests name

Instance ids and keys are put into paths as they are. The agent is told what was named exactly if
the text is literal: a mark that ends a path, a backslash, a tab or a line end, an escape, a dot
segment or a blank at the end makes it something else.
-/

namespace Rollcall.Consul

open Http Url

variable {c : Client}

namespace Client

/-- The client talks to the root of a server. -/
structure AtRoot (c : Client) : Prop where
  canSend_base : canSend c.base
  path : c.base.path = .segments [""]

theorem AtRoot.sends (h : c.AtRoot) : c.Sends := ⟨h.canSend_base, _, h.path⟩

/-- A path that ends with a name tells the name exactly if the name is literal. -/
theorem AtRoot.decodedPath_iff (h : c.AtRoot) {method : Method} {path named : String}
    {front name : List Char} {query : Option (List (String × String))} {body : Option Body}
    (hv : IsVersioned path) (hfront : ∀ ch ∈ front, isPlain ch = true)
    (hpath : path.toList = front ++ '/' :: name) (hnamed : named = "/" ++ path) :
    (c.message method path query body).url.decodedPath = Text.bytes named ↔ IsLiteral name := by
  have hhead : path.toList.head?.any isSpaceOrControl = false := by
    obtain ⟨rest, hrest⟩ := hv
    rw [hrest]
    rfl
  rw [decodedPath_message, hnamed,
    decodedPath_relative_iff (kind_of_canSend h.canSend_base) h.path hhead, hpath,
    isLiteral_append_slash (isLiteral_of_isPlain hfront)]

end Client

theorem decodedPath_check_iff (h : c.AtRoot) (id : InstanceId) :
    (c.message .put (checkPath id) none none).url.decodedPath =
      Text.bytes ("/v1/agent/check/pass/" ++ id.text) ↔ IsLiteral id.text.toList := by
  have hpath : (checkPath id).toList = "v1/agent/check/pass".toList ++ '/' :: id.text.toList := by
    unfold checkPath
    rw [String.toList_append]
    rfl
  have hnamed : "/v1/agent/check/pass/" ++ id.text = "/" ++ checkPath id :=
    (String.append_assoc : "/" ++ "v1/agent/check/pass/" ++ id.text = _)
  exact h.decodedPath_iff (isVersioned_checkPath id) (by simp [isPlain]) hpath hnamed

theorem decodedPath_removal_iff (h : c.AtRoot) (id : InstanceId) :
    (c.message .put (removalPath id) none none).url.decodedPath =
      Text.bytes ("/v1/agent/service/deregister/" ++ id.text) ↔ IsLiteral id.text.toList := by
  have hpath : (removalPath id).toList =
      "v1/agent/service/deregister".toList ++ '/' :: id.text.toList := by
    unfold removalPath
    rw [String.toList_append]
    rfl
  have hnamed : "/v1/agent/service/deregister/" ++ id.text = "/" ++ removalPath id :=
    (String.append_assoc : "/" ++ "v1/agent/service/deregister/" ++ id.text = _)
  exact h.decodedPath_iff (isVersioned_removalPath id) (by simp [isPlain]) hpath hnamed

theorem decodedPath_key_iff (h : c.AtRoot) (key : String)
    {query : Option (List (String × String))} {body : Option Body} :
    (c.message .put (keyPath key) query body).url.decodedPath =
      Text.bytes ("/v1/kv/" ++ Text.dropLeading '/' key) ↔
        IsLiteral (Text.dropLeading '/' key).toList := by
  have hpath : (keyPath key).toList =
      "v1/kv".toList ++ '/' :: (Text.dropLeading '/' key).toList := by
    unfold keyPath
    rw [String.toList_append]
    rfl
  have hnamed : "/v1/kv/" ++ Text.dropLeading '/' key = "/" ++ keyPath key :=
    (String.append_assoc : "/" ++ "v1/kv/" ++ Text.dropLeading '/' key = _)
  exact h.decodedPath_iff (isVersioned_keyPath key) (by simp [isPlain]) hpath hnamed

/-- An id that was made for a service with a plain name is literal. -/
theorem isLiteral_generate {service : String} (h : ∀ ch ∈ service.toList, isPlain ch = true)
    (random : ℕ) : IsLiteral (InstanceId.generate service random).text.toList := by
  have hdigit : ∀ n < 16, isPlain (Text.lowerHexDigit n) = true := by
    intro n hn
    interval_cases n <;> rfl
  have hhex : ∀ width n, ∀ ch ∈ Text.fixedHex width n, isPlain ch = true := by
    intro width
    induction width with
    | zero => intro n ch hch; cases hch
    | succ width ih =>
      intro n ch hch
      rcases List.mem_append.mp hch with hch | hch
      · exact ih _ ch hch
      · rw [List.mem_singleton.mp hch]
        exact hdigit _ (Nat.mod_lt _ (by decide))
  apply isLiteral_of_isPlain
  intro ch hch
  simp only [InstanceId.generate, String.toList_append, String.toList_ofList,
    List.mem_append] at hch
  rcases hch with (hch | hch) | hch
  · exact h ch hch
  · rw [List.mem_singleton.mp hch]
    rfl
  · exact hhex 12 random ch hch

/-- An instance or a key is addressed exactly by what was named if that is literal, and never
otherwise; so literal keys that are different are kept apart. -/
theorem Client.AtRoot.addresses_named_iff_literal (h : c.AtRoot) :
    (∀ s id service address a, HostPort.read address = .ok a →
      ∃ r fields, (register c s id service address).AsksOnce r ∧
        r.body = some (.json (.table fields)) ∧ fields.lookup "ID" = some (.text id.text)) ∧
    (∀ id service, ∃ r, (report c id service).AsksOnce r ∧
      (r.url.decodedPath = Text.bytes ("/v1/agent/check/pass/" ++ id.text) ↔
        IsLiteral id.text.toList)) ∧
    (∀ id, ∃ r, (deregister c id).AsksOnce r ∧
      (r.url.decodedPath = Text.bytes ("/v1/agent/service/deregister/" ++ id.text) ↔
        IsLiteral id.text.toList)) ∧
    (∀ key session, ∃ r r', (acquire c key session).AsksOnce r ∧
      (release c key session).AsksOnce r' ∧ r'.url.decodedPath = r.url.decodedPath ∧
      (r.url.decodedPath = Text.bytes ("/v1/kv/" ++ Text.dropLeading '/' key) ↔
        IsLiteral (Text.dropLeading '/' key).toList)) ∧
    ∀ key key' session session' r r',
      Text.dropLeading '/' key ≠ Text.dropLeading '/' key' →
      IsLiteral (Text.dropLeading '/' key).toList → IsLiteral (Text.dropLeading '/' key').toList →
      (acquire c key session).AsksOnce r ∨ (release c key session).AsksOnce r →
      (acquire c key' session').AsksOnce r' ∨ (release c key' session').AsksOnce r' →
      r.url.decodedPath ≠ r'.url.decodedPath := by
  have hkey : ∀ key session r, (acquire c key session).AsksOnce r ∨
      (release c key session).AsksOnce r → IsLiteral (Text.dropLeading '/' key).toList →
      r.url.decodedPath = Text.bytes ("/v1/kv/" ++ Text.dropLeading '/' key) := by
    rintro key session r (hr | hr) hliteral
    · rw [hr.unique (acquire_asksOnce h.sends key session)]
      exact (decodedPath_key_iff h key).mpr hliteral
    · rw [hr.unique (release_asksOnce h.sends key session)]
      exact (decodedPath_key_iff h key).mpr hliteral
  refine ⟨?_, ?_, ?_, ?_, ?_⟩
  · intro s id service address a ha
    exact ⟨_, _, ⟨_, register_eq h.sends ha⟩, rfl, rfl⟩
  · intro id service
    exact ⟨_, report_asksOnce h.sends id service, decodedPath_check_iff h id⟩
  · intro id
    exact ⟨_, deregister_asksOnce h.sends id, decodedPath_removal_iff h id⟩
  · intro key session
    refine ⟨_, _, acquire_asksOnce h.sends key session, release_asksOnce h.sends key session, ?_,
      decodedPath_key_iff h key⟩
    rw [Client.decodedPath_message, Client.decodedPath_message]
  · intro key key' session session' r r' hne hliteral hliteral' hr hr' heq
    rw [hkey key session r hr hliteral, hkey key' session' r' hr' hliteral'] at heq
    have htext := congrArg String.toList (Text.bytes_injective heq)
    rw [String.toList_append, String.toList_append] at htext
    exact hne (String.toList_inj.mp (List.append_cancel_left htext))

theorem Client.atRoot_onThisHost : Client.onThisHost.AtRoot := ⟨by decide, rfl⟩

theorem addresses_named_instance : Client.onThisHost.AtRoot ∧
    (∃ r, (report Client.onThisHost ⟨"movie-gen-1"⟩ "movie-gen").AsksOnce r ∧
      r.url.decodedPath = Text.bytes "/v1/agent/check/pass/movie-gen-1") ∧
    ∃ r, (report Client.onThisHost ⟨"../../x"⟩ "movie-gen").AsksOnce r ∧
      r.url.decodedPath ≠ Text.bytes "/v1/agent/check/pass/../../x" := by
  obtain ⟨-, hreport, -⟩ := Client.AtRoot.addresses_named_iff_literal Client.atRoot_onThisHost
  obtain ⟨r, hr, hnamed⟩ := hreport ⟨"movie-gen-1"⟩ "movie-gen"
  obtain ⟨r', hr', hnamed'⟩ := hreport ⟨"../../x"⟩ "movie-gen"
  exact ⟨Client.atRoot_onThisHost, ⟨r, hr, hnamed.mpr (isLiteral_of_isPlain (by simp [isPlain]))⟩,
    r', hr', fun h => (hnamed'.mp h).no_dots ['.', '.'] (by decide) |>.2 rfl⟩

/-- A mark that ends a path ends the name, so two instances share a check and two keys a lock. -/
theorem exists_name_cut_short : Client.onThisHost.AtRoot ∧
    (∃ r, (report Client.onThisHost ⟨"a?b"⟩ "s").AsksOnce r ∧
      r.url.decodedPath = Text.bytes "/v1/agent/check/pass/a") ∧
    Text.dropLeading '/' "a?b" ≠ Text.dropLeading '/' "a" ∧
    ∃ r r', (acquire Client.onThisHost "a?b" ⟨"x"⟩).AsksOnce r ∧
      (acquire Client.onThisHost "a" ⟨"y"⟩).AsksOnce r' ∧ r.url.decodedPath = r'.url.decodedPath := by
  have h := Client.atRoot_onThisHost
  have hpath : checkPath ⟨"a?b"⟩ = "v1/agent/check/pass/a?b" := rfl
  refine ⟨h, ⟨_, report_asksOnce h.sends _ _, ?_⟩, by decide, _, _,
    acquire_asksOnce h.sends _ _, acquire_asksOnce h.sends _ _, ?_⟩
  · rw [Client.decodedPath_message, hpath]
    cbv
  · rw [Client.decodedPath_message, Client.decodedPath_message]
    cbv

end Rollcall.Consul
