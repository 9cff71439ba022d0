import Rollcall.Config.Validity
import Mathlib.Tactic

/-!
# What a valid configuration is

A configuration passes validation exactly if it obeys every rule. The liveness window of one that
does is the heartbeat interval times the multiplier: a multiplier of 32 bits is too small for the
product to saturate.
-/

namespace Rollcall.Config

structure Valid (c : Config) : Prop where
  serviceName : Text.isBlankText c.node.serviceName = false
  advertiseAddress : ∃ parts, HostPort.read c.node.advertiseAddress = .ok parts
  heartbeat_pos : 0 < c.node.heartbeatIntervalSecs
  heartbeat_le : c.node.heartbeatIntervalSecs ≤ maxHeartbeatSecs
  liveness : 2 ≤ c.discovery.livenessMultiplier
  checkTtl : c.node.heartbeatIntervalSecs < c.discovery.checkTtlSecs
  requestTimeout : 0 < c.discovery.requestTimeoutSecs
  sessionTtl_ge : Consul.shortestSession ≤ c.sessionTtl
  sessionTtl_le : c.sessionTtl ≤ Consul.longestSession
  lockKey : Text.isBlankText c.lock.key = false
  retryBackoff : 0 < c.lock.retryBackoffSecs
  workTimeout : 0 < c.lock.workTimeoutSecs
  runInterval : 0 < c.lock.runIntervalSecs
  attempts : 0 < c.retry.maxAttempts

variable {c : Config}

theorem rule_eq_ok_iff {ε α : Type} {p : Prop} [Decidable p] {e : ε} {x : Except ε α} {a : α} :
    (if p then .error e else x) = .ok a ↔ ¬ p ∧ x = .ok a := by
  split_ifs with hp
  · exact ⟨nofun, fun h => absurd hp h.1⟩
  · exact ⟨fun h => ⟨hp, h⟩, And.right⟩

theorem validate_eq_ok_iff : c.validate = .ok () ↔ c.Valid := by
  unfold validate
  simp only [bind, Except.bind, throw, throwThe, MonadExceptOf.throw, pure, Except.pure]
  cases hread : HostPort.read c.node.advertiseAddress with
  | error e =>
    simp only [rule_eq_ok_iff, reduceCtorEq, and_false, false_iff]
    intro h
    obtain ⟨parts, hparts⟩ := h.advertiseAddress
    cases hread.symm.trans hparts
  | ok parts =>
    simp only [rule_eq_ok_iff, not_or, not_lt, not_le, Nat.pos_iff_ne_zero.symm, and_true,
      Bool.not_eq_true]
    constructor
    · rintro ⟨hname, ⟨hpos, hle⟩, hlive, hcheck, hrequest, ⟨hge, hmax⟩, hkey,
        ⟨hbackoff, hwork, hrun⟩, hattempts⟩
      exact ⟨hname, ⟨parts, hread⟩, hpos, hle, hlive, hcheck, hrequest, hge, hmax, hkey, hbackoff,
        hwork, hrun, hattempts⟩
    · intro h
      exact ⟨h.serviceName, ⟨h.heartbeat_pos, h.heartbeat_le⟩, h.liveness, h.checkTtl,
        h.requestTimeout, ⟨h.sessionTtl_ge, h.sessionTtl_le⟩, h.lockKey,
        ⟨h.retryBackoff, h.workTimeout, h.runInterval⟩, h.attempts⟩

theorem Valid.livenessWindow_eq (h : c.Valid) (hm : c.discovery.livenessMultiplier ≤ Text.max32) :
    c.livenessWindow = c.heartbeatInterval * c.discovery.livenessMultiplier := by
  refine Duration.scale_of_le ?_
  have hp : c.heartbeatInterval ≤ Duration.ofSecs maxHeartbeatSecs :=
    Nat.mul_le_mul_right _ h.heartbeat_le
  exact (Nat.mul_le_mul hp hm).trans (by decide)

end Rollcall.Config
