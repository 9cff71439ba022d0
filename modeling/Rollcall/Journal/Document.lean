import Rollcall.Document.Outcome
import Rollcall.Journal
import Rollcall.Json.Writer
import Rollcall.Time

/-!
# Journals as documents

An event is a list: its time in milliseconds, what happened, and the particulars. Events are shown
in the order of their times, and events of one instant in the order of their written forms.
-/
namespace Rollcall

namespace Stage

def name : Stage → String
  | start => "start"
  | finish => "end"

end Stage

namespace Event

open Document

def outcomeOf : (c : Call) → c.Outcome → Document
  | .register .., r | .deregister .., r | .report .., r => unitOutcome r
  | .addresses _, r => outcome texts r
  | .createSession _, r => outcome (fun s => text s.text) r
  | .renewSession _, r | .destroySession _, r | .release .., r => unitOutcome r
  | .acquire .., r => outcome bool r

def aboutCall : Call → List Document
  | .register id service address => [text "register", text id.text, text service, text address]
  | .deregister id service => [text "deregister", text id.text, text service]
  | .report id service => [text "report", text id.text, text service]
  | .addresses service => [text "addresses", text service]
  | .createSession ttl => [text "create_session", text (toString (Duration.millis ttl))]
  | .renewSession session => [text "renew_session", text session.text]
  | .destroySession session => [text "destroy_session", text session.text]
  | .acquire key session => [text "acquire", text key, text session.text]
  | .release key session => [text "release", text key, text session.text]

def toDocument (e : Event) : Document :=
  .list <| .nat (Duration.millis e.time) ::
    match e.happening with
    | .called c r => aboutCall c ++ [outcomeOf c r]
    | .marked job stage => [text "job", text job, text stage.name]

end Event

namespace Journal

/-- The events in the order in which they are shown, each with its time and written form. -/
def sorted (j : Journal) : List Document :=
  let keyed := j.map fun e => (e.time, Json.render e.toDocument, e.toDocument)
  (keyed.mergeSort fun a b => a.1 < b.1 || (a.1 = b.1 && !(b.2.1 < a.2.1))).map (·.2.2)

end Journal

end Rollcall
