import Rollcall.Call

/-!
# Injected faults

A backend may be made to fail. A fault names an operation, an error, and how many calls of that
operation fail with it; faults on one operation queue up. A call that a fault hits does not reach
the backend behind.
-/
namespace Rollcall

structure Fault where
  on : Call.Kind
  error : Error
  times : Nat
  deriving Repr

/-- A backend with faults waiting for it. -/
structure Faulty (B : Type) where
  behind : B
  pending : List Fault := []

namespace Fault

/-- The error that meets the next call of an operation, and the faults left after it. -/
def next (op : Call.Kind) : List Fault → Option Error × List Fault
  | [] => (none, [])
  | f :: rest =>
    if f.times = 0 then next op rest
    else if f.on = op then (some f.error, { f with times := f.times - 1 } :: rest)
    else
      let (e, rest) := next op rest
      (e, f :: rest)

end Fault

namespace Faulty

variable {B : Type}

def inject (b : Faulty B) (f : Fault) : Faulty B := { b with pending := b.pending ++ [f] }

def perform [Backend B] (b : Faulty B) (now : Nat) (c : Call) : c.Outcome × Faulty B :=
  match Fault.next c.kind b.pending with
  | (some e, pending) => (.error e, { b with pending })
  | (none, pending) =>
    let (r, behind) := Backend.perform b.behind now c
    (r, { behind, pending })

instance [Backend B] : Backend (Faulty B) := ⟨perform⟩

end Faulty

end Rollcall
