import Rollcall.Error
import Rollcall.Json.Reader

/-!
# Numbers in JSON
-/
namespace Rollcall.Json

/-- Read a text that holds nothing but a natural number of at most `bound`. -/
def readNat (bound : Nat) (s : String) : Except Error Nat :=
  match read s with
  | some (.int (.ofNat n)) => if n ≤ bound then .ok n else .error .malformedJson
  | _ => .error .malformedJson

end Rollcall.Json
