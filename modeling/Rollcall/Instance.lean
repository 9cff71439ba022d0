import Rollcall.Text.Hex

/-!
# Service instances

An instance of a service is known by its id. Ids are ordered as their texts are, by code point.
-/
namespace Rollcall

structure InstanceId where
  text : String
  deriving DecidableEq, Repr

namespace InstanceId

instance : ToString InstanceId := ⟨text⟩

def compare (a b : InstanceId) : Ordering :=
  if a.text < b.text then .lt else if a = b then .eq else .gt

/-- A new id: the service, a hyphen, and twelve hexadecimal digits of a random number. -/
def generate (service : String) (random : Nat) : InstanceId :=
  ⟨service ++ "-" ++ String.ofList (Text.fixedHex 12 random)⟩

end InstanceId

end Rollcall
