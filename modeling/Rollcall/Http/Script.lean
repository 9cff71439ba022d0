import Rollcall.Http.Message

/-!
# Scripted servers

A server that answers from a list, one entry for each request, and refuses everything after its end.
It remembers the requests together with what became of them.
-/
namespace Rollcall.Http

structure Script where
  deliveries : List Delivery := []
  /-- The requests that were made, the latest first. -/
  log : List (Request × Delivery) := []

namespace Script

def send (s : Script) (r : Request) : Delivery × Script :=
  match s.deliveries with
  | [] => (.refused, { s with log := (r, .refused) :: s.log })
  | d :: rest => (d, { deliveries := rest, log := (r, d) :: s.log })

instance : Network Script := ⟨send⟩

def received (s : Script) : List Request :=
  s.log.reverse.filterMap fun (r, d) =>
    match d with
    | .refused => none
    | _ => some r

end Script

end Rollcall.Http
