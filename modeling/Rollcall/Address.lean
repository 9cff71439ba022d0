import Rollcall.Error

/-!
# Advertised addresses

An instance is reached at a host and a port, written with a colon between them. The host is not
empty, neither part has a colon of its own, and the port is a numeral of sixteen bits.
-/
namespace Rollcall

structure HostPort where
  host : String
  port : Nat
  deriving DecidableEq, Repr

namespace HostPort

def render (a : HostPort) : String := a.host ++ ":" ++ toString a.port

/-- Read the parts of `text`, which is split at its first colon. -/
def ofParts (text : String) (host rest : List Char) : Except Error HostPort :=
  match rest with
  | [] => .error (.malformedAddress text)
  | _ :: port =>
    if host = [] ∨ ':' ∈ port then .error (.malformedAddress text)
    else
      match Text.Numeral.readChars Text.max16 port with
      | .ok n => .ok ⟨String.ofList host, n⟩
      | .error fault => .error (.invalidPort text fault)

def read (text : String) : Except Error HostPort :=
  ofParts text (text.toList.takeWhile (· ≠ ':')) (text.toList.dropWhile (· ≠ ':'))

end HostPort

end Rollcall
