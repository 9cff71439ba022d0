import Rollcall.Work

/-!
# Resolution

A service name is resolved to the address of one live instance, each being as likely as the others.
Having no live instance counts as a passing outage. Nothing is drawn unless there is something to
choose from.
-/
namespace Rollcall.Resolver

def pick (service : String) : List String → Plan Work (Except Error String)
  | [] => .done (.error (.unavailable (Error.noLiveInstances service)))
  | first :: rest =>
    .ask (.choose rest.length) fun (i : Fin (rest.length + 1)) =>
      .done (.ok ((first :: rest).get (i.cast (by simp))))

/-- The error that a resolution gives for an error of the registry. -/
def readingError (service : String) (e : Error) : Error :=
  if e.kind = .notFound then .unavailable (Error.noLiveInstances service) else e

def resolve (service : String) : Plan Work (Except Error String) :=
  .ask (.call (.addresses service)) fun (r : Except Error (List String)) =>
    match r with
    | .ok live => pick service live
    | .error e => .done (.error (readingError service e))

end Rollcall.Resolver
