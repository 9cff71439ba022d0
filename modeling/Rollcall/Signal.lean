/-!
# Shutdown signals

A background task watches a flag that its owner may set, and learns that the owner has let go of it.
Each setting is news until the task has looked at it, even one that leaves the flag as it was.
-/
namespace Rollcall

structure Signal where
  value : Bool := false
  /-- Set since the task last looked. -/
  isNews : Bool := false
  /-- The owner is gone. -/
  isDropped : Bool := false
  deriving DecidableEq, Repr

namespace Signal

/-- A flag that was set before the task began to watch. -/
def initially (value : Bool) : Signal := { value }

def send (s : Signal) (value : Bool) : Signal := { s with value, isNews := true }

def dropOwner (s : Signal) : Signal := { s with isDropped := true }

def look (s : Signal) : Signal := { s with isNews := false }

def stirs (s : Signal) : Bool := s.isNews || s.isDropped

end Signal

end Rollcall
