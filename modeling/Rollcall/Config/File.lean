import Rollcall.Config.Document
import Rollcall.Toml.Reader

/-!
# Configuration files

A file has to be there, to hold text, and to be a TOML document that describes a configuration.
-/
namespace Rollcall

inductive FileFault where
  /-- Not there, or no text. -/
  | unreadable
  /-- No TOML, or no configuration. -/
  | malformed
  deriving DecidableEq, Repr

def FileFault.message (path : String) : FileFault → String
  | unreadable => s!"Failed to read config file: {path}"
  | malformed => s!"Failed to parse TOML config file: {path}"

namespace Config

def ofToml? (s : String) : Option Config := (Toml.read s).bind ofDocument

/-- The configuration in a file with the given contents, if there is such a file. -/
def ofFile (contents : Option ByteArray) : Except FileFault Config :=
  match contents.bind String.fromUTF8? with
  | none => .error .unreadable
  | some s =>
    match ofToml? s with
    | some c => .ok c
    | none => .error .malformed

end Config

end Rollcall
