import Mathlib.Data.List.TakeWhile
import Rollcall.Address
import Rollcall.Proofs.Text.Numeral

/-!
# Spellings of an address

A text is an address if it has one colon, a host before it and the numeral of a port after it. Any
other text is refused, and the cause tells what is wrong with the port if there are a host and a
port at all. A host and a port are read back from the text that they are rendered as. So every
address has one plain spelling, that of its rendering; the others have a sign or zeros before the
port.
-/

namespace Rollcall

namespace HostPort

structure WellFormed (a : HostPort) : Prop where
  host_ne : a.host ≠ ""
  host_plain : ':' ∉ a.host.toList
  port_le : a.port ≤ Text.max16

/-- The text is a host and a port with the only colon between them. -/
structure Splits (text host port : String) : Prop where
  text_eq : text = host ++ ":" ++ port
  host_ne : host ≠ ""
  host_plain : ':' ∉ host.toList
  port_plain : ':' ∉ port.toList

/-- The text has no colon, more than one, or nothing before its first. -/
def IsMalformed (text : String) : Prop :=
  text.toList.count ':' ≠ 1 ∨ ∃ port, text = ":" ++ port

variable {text host port : String} {a : HostPort} {e : Error}

theorem toList_of_splits (h : Splits text host port) :
    text.toList = host.toList ++ ':' :: port.toList := by
  rw [h.text_eq]
  simp

theorem read_of_splits (h : Splits text host port) :
    read text = ((Text.Numeral.readChars Text.max16 port.toList).map (HostPort.mk host)).mapError
      (Error.invalidPort text) := by
  have hhost : ∀ c ∈ host.toList, decide (c ≠ ':') = true := by
    intro c hc
    refine decide_eq_true ?_
    rintro rfl
    exact h.host_plain hc
  have hne : host.toList ≠ [] := fun hnil => h.host_ne (String.toList_eq_nil_iff.mp hnil)
  unfold read
  rw [toList_of_splits h, List.takeWhile_append_of_pos hhost, List.dropWhile_append_of_pos hhost,
    List.takeWhile_cons_of_neg (by decide), List.dropWhile_cons_of_neg (by decide),
    List.append_nil]
  unfold ofParts
  dsimp only
  rw [if_neg (not_or.mpr ⟨hne, h.port_plain⟩), String.ofList_toList]
  cases Text.Numeral.readChars Text.max16 port.toList with
  | ok n => rfl
  | error fault => rfl

theorem Splits.not_isMalformed (h : Splits text host port) : ¬ IsMalformed text := by
  rintro (hcount | ⟨rest, htext⟩)
  · rw [toList_of_splits h, List.count_append, List.count_cons_self,
      List.count_eq_zero.mpr h.host_plain, List.count_eq_zero.mpr h.port_plain] at hcount
    exact hcount rfl
  · have hlist := (toList_of_splits h).symm.trans (congrArg String.toList htext)
    cases hhost : host.toList with
    | nil => exact h.host_ne (String.toList_eq_nil_iff.mp hhost)
    | cons c cs =>
      rw [hhost, String.toList_append, List.cons_append] at hlist
      refine h.host_plain ?_
      rw [hhost, (List.cons.inj hlist).1]
      exact List.mem_cons_self

theorem splits_or_isMalformed (text : String) : (∃ host port, Splits text host port) ∨
    IsMalformed text ∧ read text = .error (.malformedAddress text) := by
  have hsplit := List.takeWhile_append_dropWhile (p := (decide <| · ≠ ':')) (l := text.toList)
  have hplain : ':' ∉ text.toList.takeWhile (· ≠ ':') := by
    intro hmem
    simpa using List.mem_takeWhile_imp hmem
  unfold read
  generalize text.toList.takeWhile (· ≠ ':') = before at hsplit hplain ⊢
  cases hdrop : text.toList.dropWhile (· ≠ ':') with
  | nil =>
    rw [hdrop, List.append_nil] at hsplit
    refine .inr ⟨.inl ?_, rfl⟩
    rw [← hsplit, List.count_eq_zero.mpr hplain]
    exact Nat.zero_ne_one
  | cons c after =>
    obtain rfl : c = ':' := by
      have hhead := List.head?_dropWhile_not (decide <| · ≠ ':') text.toList
      rw [hdrop] at hhead
      simpa using hhead
    rw [hdrop] at hsplit
    unfold ofParts
    dsimp only
    split_ifs with hbad
    · refine .inr ⟨?_, rfl⟩
      rcases hbad with rfl | hmem
      · refine .inr ⟨String.ofList after, ?_⟩
        rw [← String.toList_inj, ← hsplit]
        simp
      · have hpos := List.count_pos_iff.mpr hmem
        refine .inl ?_
        rw [← hsplit, List.count_append, List.count_cons_self]
        omega
    · rw [not_or] at hbad
      refine .inl ⟨String.ofList before, String.ofList after, ?_, ?_, ?_, ?_⟩
      · rw [← String.toList_inj, ← hsplit]
        simp
      · intro hnil
        exact hbad.1 (by simpa using congrArg String.toList hnil)
      · rwa [String.toList_ofList]
      · rw [String.toList_ofList]
        exact hbad.2

theorem read_eq_ok_iff : read text = .ok a ↔ ∃ port, Splits text a.host port ∧
    Text.Numeral.Denotes port.toList a.port ∧ a.port ≤ Text.max16 := by
  constructor
  · intro h
    rcases splits_or_isMalformed text with ⟨host, port, hsplits⟩ | ⟨-, herror⟩
    · rw [read_of_splits hsplits] at h
      cases hport : Text.Numeral.readChars Text.max16 port.toList with
      | ok n =>
        rw [hport] at h
        cases h
        exact ⟨port, hsplits, Text.Numeral.readChars_eq_ok_iff.mp hport⟩
      | error fault =>
        rw [hport] at h
        cases h
    · cases herror.symm.trans h
  · rintro ⟨port, hsplits, hport⟩
    rw [read_of_splits hsplits, Text.Numeral.readChars_eq_ok_iff.mpr hport]
    rfl

theorem read_eq_error_iff : read text = .error e ↔
    IsMalformed text ∧ e = .malformedAddress text ∨ ∃ host port fault, Splits text host port ∧
      Text.Numeral.Offends Text.max16 port.toList fault ∧ e = .invalidPort text fault := by
  constructor
  · intro h
    rcases splits_or_isMalformed text with ⟨host, port, hsplits⟩ | ⟨hbad, herror⟩
    · rw [read_of_splits hsplits] at h
      cases hport : Text.Numeral.readChars Text.max16 port.toList with
      | ok n =>
        rw [hport] at h
        cases h
      | error fault =>
        rw [hport] at h
        cases h
        exact .inr
          ⟨host, port, fault, hsplits, Text.Numeral.readChars_eq_error_iff.mp hport, rfl⟩
    · cases herror.symm.trans h
      exact .inl ⟨hbad, rfl⟩
  · rintro (⟨hbad, rfl⟩ | ⟨host, port, fault, hsplits, hport, rfl⟩)
    · rcases splits_or_isMalformed text with ⟨host, port, hsplits⟩ | ⟨-, herror⟩
      · exact absurd hbad hsplits.not_isMalformed
      · exact herror
    · rw [read_of_splits hsplits, Text.Numeral.readChars_eq_error_iff.mpr hport]
      rfl

theorem kind_of_read (h : read text = .error e) : e.kind = .internal := by
  rcases read_eq_error_iff.mp h with ⟨-, rfl⟩ | ⟨-, -, -, -, -, rfl⟩
  · rfl
  · rfl

theorem wellFormed_of_read (h : read text = .ok a) : a.WellFormed := by
  obtain ⟨port, hsplits, -, hle⟩ := read_eq_ok_iff.mp h
  exact ⟨hsplits.host_ne, hsplits.host_plain, hle⟩

theorem read_render (h : a.WellFormed) : read a.render = .ok a := by
  have hport : ':' ∉ (toString a.port).toList := by
    rw [Nat.toString_eq_ofList_toDigits, String.toList_ofList]
    intro hmem
    exact absurd (Nat.isDigit_of_mem_toDigits (by decide) (by decide) hmem) (by decide)
  have hsplits : Splits a.render a.host (toString a.port) :=
    ⟨rfl, h.host_ne, h.host_plain, hport⟩
  rw [read_of_splits hsplits, Text.Numeral.readChars_toString h.port_le]
  rfl

/-- A text is read as an address if it is a host and the numeral of a port within sixteen bits with
the only colon between them. Every other text is an internal error. It has no cause if there is no
host and port, and else the cause is the first thing that is wrong with the port. An address that
was read is read again from its rendering. -/
theorem read_exact (text : String) :
    (∀ a, read text = .ok a ↔ ∃ port, Splits text a.host port ∧
      Text.Numeral.Denotes port.toList a.port ∧ a.port ≤ Text.max16) ∧
    (∀ e, read text = .error e → e.kind = .internal) ∧
    ((∃ e, read text = .error e ∧ e.causes = []) ↔ IsMalformed text) ∧
    (∀ fault, (∃ e, read text = .error e ∧ e.causes = [fault.message]) ↔
      ∃ host port, Splits text host port ∧ Text.Numeral.Offends Text.max16 port.toList fault) ∧
    ∀ a, read text = .ok a → read a.render = .ok a := by
  refine ⟨fun a => read_eq_ok_iff, fun e => kind_of_read, ?_, fun fault => ?_,
    fun a h => read_render (wellFormed_of_read h)⟩
  · constructor
    · rintro ⟨e, h, hcauses⟩
      rcases read_eq_error_iff.mp h with ⟨hbad, -⟩ | ⟨_, _, _, _, _, rfl⟩
      · exact hbad
      · cases hcauses
    · intro hbad
      exact ⟨_, read_eq_error_iff.mpr (.inl ⟨hbad, rfl⟩), rfl⟩
  · constructor
    · rintro ⟨e, h, hcauses⟩
      rcases read_eq_error_iff.mp h with ⟨-, rfl⟩ | ⟨host, port, fault', hsplits, hport, rfl⟩
      · cases hcauses
      · obtain rfl := Text.NumeralFault.message_injective (List.singleton_inj.mp hcauses)
        exact ⟨host, port, hsplits, hport⟩
    · rintro ⟨host, port, hsplits, hport⟩
      exact ⟨_, read_eq_error_iff.mpr (.inr ⟨host, port, fault, hsplits, hport, rfl⟩), rfl⟩

theorem read_exact_about_largest :
    read "h:65535" = .ok ⟨"h", 65535⟩ ∧ ∃ host port, Splits "h:65536x" host port ∧
      Text.Numeral.Offends Text.max16 port.toList .tooLarge := by
  obtain ⟨-, -, -, -, hagain⟩ := read_exact "h:+065535"
  obtain ⟨-, -, -, hoffends, -⟩ := read_exact "h:65536x"
  exact ⟨hagain ⟨"h", 65535⟩ (by decide), (hoffends .tooLarge).mp ⟨_, rfl, by decide⟩⟩

def plain (text : String) : String :=
  match read text with
  | .ok a => a.render
  | .error _ => text

theorem plain_of_read (h : read text = .ok a) : plain text = a.render := by
  unfold plain
  rw [h]

theorem plain_plain (text : String) : plain (plain text) = plain text := by
  cases h : read text with
  | ok a => rw [plain_of_read h, plain_of_read (read_render (wellFormed_of_read h))]
  | error e =>
    have hself : plain text = text := by
      unfold plain
      rw [h]
    rw [hself, hself]

end HostPort

end Rollcall
