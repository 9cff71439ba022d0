import Rollcall.Call
import Rollcall.Signal
import Rollcall.Ticker

/-!
# Heartbeats

A heartbeat reports an instance healthy at every tick, the first of them when it starts, and pays no
heed to the outcome. It ends when its flag is set or its owner is gone, which it notices at once.
-/
namespace Rollcall

structure Heartbeat where
  id : InstanceId
  service : String
  ticker : Ticker
  signal : Signal
  ended : Bool := false
  deriving DecidableEq, Repr

namespace Heartbeat

def shortestPeriod : Nat := Duration.ofMillis 10

def start (now : Nat) (id : InstanceId) (service : String) (period : Nat) (signal : Signal) :
    Heartbeat :=
  { id, service, ticker := ⟨max period shortestPeriod, now⟩, signal }

/-- When the heartbeat next has something to do; at once if there is something to notice. -/
def due (h : Heartbeat) : Option Nat :=
  if h.ended then none
  else if h.signal.value || h.signal.stirs then some 0
  else some h.ticker.due

/-- What a heartbeat does when woken: it may report, and goes on to a next state. -/
structure Turn where
  report : Bool
  next : Heartbeat

/-- What comes first is open when a heartbeat is woken to more than one thing. Here a flag that is set
is noticed before a tick that is due, and the tick is made before anything else is noticed. -/
def wake (h : Heartbeat) (now : Nat) : Turn :=
  if h.ended then ⟨false, h⟩
  else if h.signal.value then ⟨false, { h with ended := true }⟩
  else if h.ticker.due ≤ now then ⟨true, { h with ticker := h.ticker.advance now }⟩
  else if h.signal.isNews then ⟨false, { h with signal := h.signal.look }⟩
  else if h.signal.isDropped then ⟨false, { h with ended := true }⟩
  else ⟨false, h⟩

def call (h : Heartbeat) : Call := .report h.id h.service

@[simp] theorem call_next_wake (h : Heartbeat) (now : Nat) : (h.wake now).next.call = h.call := by
  unfold wake; repeat' split
  all_goals rfl

end Heartbeat

end Rollcall
