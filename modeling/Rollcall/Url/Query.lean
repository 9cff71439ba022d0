import Rollcall.Url.Basic

/-!
# Query parameters

Parameters are pairs written with an equals sign between name and value and an ampersand between
pairs. A blank is a plus sign; letters, digits and four marks stand for themselves.
-/
namespace Rollcall.Url

def isKeptInForm (c : Char) : Bool := c.isAlphanum || c = '*' || c = '-' || c = '.' || c = '_'

def encodeFormChar (c : Char) : List Char :=
  if c = ' ' then ['+']
  else if isKeptInForm c then [c]
  else (String.utf8EncodeChar c).flatMap encodeByte

def encodeForm (s : String) : String := String.ofList (s.toList.flatMap encodeFormChar)

def encodePair (p : String × String) : String := encodeForm p.1 ++ "=" ++ encodeForm p.2

def encodePairs (pairs : List (String × String)) : String :=
  String.intercalate "&" (pairs.map encodePair)

/-- Add parameters to those that a URL has. An empty query is left out. -/
def withParameters (u : Url) (pairs : List (String × String)) : Url :=
  let query :=
    match u.query.getD "" with
    | "" => encodePairs pairs
    | old => if pairs.isEmpty then old else old ++ "&" ++ encodePairs pairs
  { u with query := if query = "" then none else some query }

end Rollcall.Url
