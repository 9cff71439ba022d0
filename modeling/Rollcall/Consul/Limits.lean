import Rollcall.Time

/-!
# Limits and defaults of a Consul agent
-/
namespace Rollcall.Consul

def defaultAddress : String := "localhost:8500"

def defaultTimeout : Nat := Duration.ofSecs 10

def defaultCheckTtl : Nat := Duration.ofSecs 5

/-- The times to live that an agent accepts for a session. -/
def shortestSession : Nat := Duration.ofSecs 10
def longestSession : Nat := Duration.ofSecs 86400

end Rollcall.Consul
