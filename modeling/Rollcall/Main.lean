import Rollcall.Backend
import Rollcall.CommandLine
import Rollcall.Config.Environment
import Rollcall.Config.File
import Rollcall.Config.Validity
import Rollcall.Fleet.App
import Rollcall.Http.Script
import Rollcall.Journal.Document
import Rollcall.Log

/-!
# The program

A run reads its configuration, starts an app on the backend that the configuration names, and lets
the app's clock follow the real one until standard input ends; then it shuts the app down. No
transport is attached, so an agent is found unreachable.
-/
namespace Rollcall.Main

abbrev Home : Type := ConfiguredBackend Http.Script

abbrev Failure : Type := String × List String

def readEnvironment : IO Environment := do
  let mut env : Environment := []
  for name in Config.variableNames do
    if let some value ← IO.getEnv name then
      env := (name, value.toUTF8) :: env
  return env

def readContents (path : String) : IO (Option ByteArray) := do
  try
    return some (← IO.FS.readBinFile path)
  catch _ =>
    return none

def loadConfig (o : RunOptions) : IO (Except Failure Config) := do
  match o.configFile with
  | some path =>
    match Config.ofFile (← readContents path) with
    | .error f => return .error (f.message path, [])
    | .ok c => return .ok c
  | none =>
    match Config.ofEnvironment (← readEnvironment) with
    | .error m => return .error (m, [])
    | .ok c => return .ok c

def randomNumber (bytes : Nat) : IO Nat := do
  return (← IO.getRandomBytes bytes.toUSize).foldl (fun n b => 256 * n + b.toNat) 0

/-- Start the app of a configuration at the beginning of time. -/
def startApp (c : Config) (id : InstanceId) (random : RandomSource) :
    Except Error (App × Fleet Home) :=
  match ConfiguredBackend.ofConfig c ({} : Http.Script) with
  | .error e => .error e
  | .ok backend =>
    match App.start ({ backend } : Fleet Home) c id random with
    | (.error e, _) => .error e
    | (.ok app, fleet) => .ok (app, fleet)

partial def drain (input : IO.FS.Stream) : IO Unit := do
  unless (← input.read 4096).isEmpty do
    drain input

def tell (say : LogLine → IO Unit) (fleet : Fleet Home) : IO (Fleet Home) := do
  for event in fleet.journal.sorted do
    say ⟨.debug, "event", [("entry", event)]⟩
  return { fleet with journal := [] }

/-- Follow the real clock until `isOver`. -/
partial def follow (say : LogLine → IO Unit) (begun : Nat) (isOver : IO Bool) (fleet : Fleet Home) :
    IO (Fleet Home) := do
  let now := Duration.ofMillis ((← IO.monoMsNow) - begun)
  let fleet ← tell say (fleet.advanceTo now)
  if ← isOver then
    return fleet
  IO.sleep 50
  follow say begun isOver fleet

def fail (f : Failure) : IO UInt32 := do
  IO.eprintln (CommandLine.failureReport f.1 f.2)
  return 1

def runApp (o : RunOptions) (c : Config) : IO UInt32 := do
  let format := o.logFormat.getD c.logging.format
  let say (l : LogLine) : IO Unit := do
    if l.isShown o.isVerbose c.logging.level then
      IO.println (l.render format)
  say ⟨.info, "meshkeeper starting",
    [("service", .text c.node.serviceName), ("address", .text c.node.advertiseAddress),
      ("backend", .text c.discovery.backend.name)]⟩
  let begun ← IO.monoMsNow
  let id := InstanceId.generate c.node.serviceName (← randomNumber 6)
  match startApp c id (.ofSeed (← randomNumber 8)) with
  | .ok (app, fleet) =>
    let input ← IO.getStdin
    let reading ← IO.asTask (drain input)
    let fleet ← follow say begun (IO.hasFinished reading) fleet
    say ⟨.info, "Shutdown signal received", []⟩
    let _ ← tell say (app.shutdown fleet)
    say ⟨.info, "meshkeeper stopped", []⟩
    return 0
  | .error e => fail ("Failed to start node", e.message :: e.causes)

def run (o : RunOptions) : IO UInt32 := do
  match ← loadConfig o with
  | .error f => fail f
  | .ok c =>
    match c.validate with
    | .error f => fail ("Invalid configuration", f.message :: f.causes)
    | .ok _ => runApp o c

end Rollcall.Main

def main (arguments : List String) : IO UInt32 := do
  match Rollcall.CommandLine.read arguments with
  | .ok (.run o) => Rollcall.Main.run o
  | .ok .help =>
    IO.println Rollcall.CommandLine.helpText
    return 0
  | .ok .version =>
    IO.println Rollcall.CommandLine.versionText
    return 0
  | .error f =>
    IO.eprintln f.report
    return 2
