import Rollcall.Scenario.World

/-!
# The commands of a scenario

What a scenario can be told to do. Durations are in nanoseconds.
-/
namespace Rollcall.Scenario

inductive JobChoice where
  | timed (duration : Nat) (failure : Option Error)
  | audit (services : List String) (seed : Nat) (retry : RetryPolicy)

structure ProcessorChoice where
  name : String
  lock : String
  job : JobChoice
  settings : Processor.Settings

namespace ProcessorChoice

def make (c : ProcessorChoice) (signal : Signal) : Processor :=
  match c.job with
  | .timed duration failure => {
      settings := c.settings
      job := .timed c.name duration (match failure with | none => .ok () | some e => .error e)
      random := .ofSeed 0
      signal }
  | .audit services seed retry => {
      settings := c.settings
      job := Audit.job retry services
      random := .ofSeed seed
      signal }

end ProcessorChoice

inductive Command where
  | sleep (duration : Nat)
  | jump (duration : Nat)
  | injectFault (f : Fault)
  | call (c : Call)
  | holder (key : String)
  | sessionCount
  | openResolver (name : String) (seed : Nat)
  | resolve (name service : String) (count : Nat)
  | connect (name service path : String) (credentials : Except Error Credentials)
  | audit (services : List String) (seed : Nat) (retry : RetryPolicy)
  | auditJob (services : List String) (seed : Nat) (retry : RetryPolicy)
  | startHeartbeat (name : String) (id : InstanceId) (service : String) (period : Nat)
      (stopped : Bool)
  | signal (name : String) (value : Bool)
  | stop (name : String)
  | dropOwner (name : String)
  | isFinished (name : String)
  | startNode (name service address : String) (id : Option InstanceId) (interval : Nat)
  | isNodeRunning (name : String)
  | shutdownNode (name : String)
  | openLock (name : String) (ttl : Nat)
  | lockSession (name : String)
  | acquireLock (name key guard : String)
  | releaseGuard (guard : String)
  | dropGuard (guard : String)
  | closeLock (name : String)
  | dropLock (name : String)
  | runOnce (p : ProcessorChoice)
  | startProcessor (p : ProcessorChoice) (stopped : Bool)
  | startApp (name : String) (config : Config) (own : Bool)
  | appInfo (name : String)
  | shutdownApp (name : String)
  | unknown

end Rollcall.Scenario
