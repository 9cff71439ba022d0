/-!
# Sessions

Locks are held by sessions. A session is known by its id and lives as long as it is renewed.
-/
namespace Rollcall

structure SessionId where
  text : String
  deriving DecidableEq, Repr

instance : ToString SessionId := ⟨SessionId.text⟩

end Rollcall
