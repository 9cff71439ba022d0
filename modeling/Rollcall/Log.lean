import Rollcall.Json.Writer

/-!
# Logs

A log line is a message with named particulars. It is written as a JSON object where that form is
asked for, and as plain text otherwise. A run tells its start and its end from the level `info` on,
and every event from the level `debug` on.
-/
namespace Rollcall

inductive LogLevel where
  | info
  | debug
  deriving DecidableEq, Repr

structure LogLine where
  level : LogLevel
  message : String
  fields : List (String × Document) := []

namespace LogLine

/-- A line that is shown under a configured level; a verbose run shows them all. -/
def isShown (isVerbose : Bool) (configured : String) (l : LogLine) : Bool :=
  isVerbose ||
    match l.level with
    | .info => ["info", "debug", "trace"].contains configured
    | .debug => ["debug", "trace"].contains configured

def render (format : String) (l : LogLine) : String :=
  if format = "json" then Json.render (.table (("message", .text l.message) :: l.fields))
  else l.message ++ String.join (l.fields.map fun (name, d) => s!" {name}=" ++ Json.render d)

end LogLine

end Rollcall
