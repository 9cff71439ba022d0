import Rollcall.Url.Percent

/-!
# URLs

The parts of a URL in their normal forms, and the text they make up. A path is a list of segments,
each written with a slash before it, or a text that is not looked into.
-/
namespace Rollcall

namespace Url

inductive Path where
  | segments (list : List String)
  | opaqueText (text : String)
  deriving DecidableEq, Repr

/-- What is special about a scheme: web schemes have a host, files live on a host or on none. -/
inductive SchemeKind where
  | web
  | file
  | other
  deriving DecidableEq, Repr

def schemeKind (scheme : String) : SchemeKind :=
  if scheme = "file" then .file
  else if scheme ∈ ["http", "https", "ws", "wss", "ftp"] then .web
  else .other

def defaultPort (scheme : String) : Option Nat :=
  [("http", 80), ("https", 443), ("ws", 80), ("wss", 443), ("ftp", 21)].lookup scheme

end Url

structure Url where
  scheme : String
  username : String := ""
  password : String := ""
  /-- Nothing for a URL without an authority. -/
  host : Option String := none
  port : Option Nat := none
  path : Url.Path
  query : Option String := none
  fragment : Option String := none
  deriving DecidableEq, Repr

namespace Url

def Path.text : Path → String
  | .segments l => String.join (l.map ("/" ++ ·))
  | .opaqueText t => t

/-- The user and the password with the sign that ends them, if there are any. -/
def userinfoText (u : Url) : String :=
  if u.username = "" ∧ u.password = "" then ""
  else u.username ++ (if u.password = "" then "" else ":" ++ u.password) ++ "@"

def portText (u : Url) : String :=
  match u.port with
  | none => ""
  | some p => ":" ++ toString p

/-- What stands between the scheme and the path. A path that begins with two slashes is kept apart
from the scheme when there is no authority. -/
def authorityText (u : Url) : String :=
  match u.host with
  | some h => "//" ++ u.userinfoText ++ h ++ u.portText
  | none =>
    match u.path with
    | .segments ("" :: _ :: _) => "/."
    | _ => ""

def markedText (mark : String) : Option String → String
  | none => ""
  | some t => mark ++ t

def render (u : Url) : String :=
  u.scheme ++ ":" ++ u.authorityText ++ u.path.text ++ markedText "?" u.query ++
    markedText "#" u.fragment

instance : ToString Url := ⟨render⟩

def kind (u : Url) : SchemeKind := schemeKind u.scheme

/-- The path and the query, as a request names its target. -/
def target (u : Url) : String := u.path.text ++ markedText "?" u.query

def withoutUserinfo (u : Url) : Url := { u with username := "", password := "" }

end Url

end Rollcall
