import Rollcall.Text.Numeral
import Rollcall.Url.Basic
import Rollcall.Url.Host

/-!
# Reading URLs

A text is read as a URL of its own or relative to a base. Blanks and controls around it are dropped,
and so are tabs and line ends within. What is read is brought into its normal form: dot segments are
resolved, a default port is dropped, a backslash in a web URL counts as a slash.
-/
namespace Rollcall.Url

def isSpaceOrControl (c : Char) : Bool := c.toNat ≤ 0x20

def clean (s : String) : List Char :=
  let trimmed := ((s.toList.dropWhile isSpaceOrControl).reverse.dropWhile isSpaceOrControl).reverse
  trimmed.filter fun c => c ≠ '\t' ∧ c ≠ '\n' ∧ c ≠ '\r'

def isSchemeChar (c : Char) : Bool := c.isAlphanum || c = '+' || c = '-' || c = '.'

/-- A scheme in lower case, and what comes after its colon. -/
def readScheme (cs : List Char) : Option (String × List Char) :=
  match cs.dropWhile isSchemeChar with
  | ':' :: rest =>
    let name := cs.takeWhile isSchemeChar
    match name with
    | c :: _ => if c.isAlpha then some (String.ofList (name.map Char.toLower), rest) else none
    | [] => none
  | _ => none

/-- A backslash is a slash unless the scheme is of no known kind. -/
def isSlash (k : SchemeKind) (c : Char) : Bool := c = '/' || (k ≠ .other && c = '\\')

def isPathEnd (c : Char) : Bool := c = '?' || c = '#'

def readTail (k : SchemeKind) (cs : List Char) : Option String × Option String :=
  let fragmentOf (cs : List Char) : Option String :=
    match cs with
    | '#' :: rest => some (String.ofList (percentEncode isEncodedInFragment rest))
    | _ => none
  match cs with
  | '?' :: rest =>
    let q := rest.takeWhile (· ≠ '#')
    (some (String.ofList (percentEncode (isEncodedInQuery (k ≠ .other)) q)),
      fragmentOf (rest.dropWhile (· ≠ '#')))
  | _ => (none, fragmentOf cs)

/-- Two points, each of which may be percent encoded. -/
def isDoubleDot (cs : List Char) : Bool :=
  [['.', '.'], ['.', '%', '2', 'e'], ['%', '2', 'e', '.'],
    ['%', '2', 'e', '%', '2', 'e']].contains (cs.map Char.toLower)

def isSingleDot (cs : List Char) : Bool := [['.'], ['%', '2', 'e']].contains (cs.map Char.toLower)

/-- A letter followed by one of the two signs that may mark a drive. -/
def isDriveLetter : List Char → Bool
  | [c, m] => c.isAlpha && (m = ':' || m = '|')
  | _ => false

/-- Take the last segment away, but not the drive of a file. -/
def shorten (k : SchemeKind) (path : List String) : List String :=
  match path with
  | [s] => if k = .file ∧ isDriveLetter s.toList ∧ s.toList[1]? = some ':' then path else []
  | _ => path.dropLast

/-- Add a segment; `more` tells whether a slash comes after it. -/
def addSegment (k : SchemeKind) (path : List String) (segment : List Char) (more : Bool) :
    List String :=
  let encoded := percentEncode isEncodedInPath segment
  if isDoubleDot encoded then
    if more then shorten k path else shorten k path ++ [""]
  else if isSingleDot encoded then
    if more then path else path ++ [""]
  else if k = .file ∧ path = [] ∧ isDriveLetter encoded then
    path ++ [String.ofList (encoded.take 1 ++ [':'])]
  else path ++ [String.ofList encoded]

/-- Add the segments that a text spells, the characters of the present one being in reverse. -/
def addSegments (k : SchemeKind) : (path : List String) → (before : List Char) → List Char →
    List String
  | path, before, [] => addSegment k path before.reverse false
  | path, before, c :: rest =>
    if isSlash k c then addSegments k (addSegment k path before.reverse true) [] rest
    else addSegments k path (c :: before) rest

/-- Extend a path by the part of a text before its query, and give the rest. -/
def readPath (k : SchemeKind) (start : List String) (cs : List Char) : Path × List Char :=
  let segments := addSegments k start [] (cs.takeWhile fun c => !isPathEnd c)
  let segments := if k = .file then
      match segments.dropWhile (· = "") with
      | [] => [""]
      | kept => kept
    else segments
  (.segments segments, cs.dropWhile fun c => !isPathEnd c)

/-- The path after an authority. -/
def readPathStart (k : SchemeKind) (cs : List Char) : Path × List Char :=
  match cs with
  | [] => (.segments (if k = .other then [] else [""]), [])
  | c :: rest =>
    if isSlash k c then readPath k [] rest
    else if k = .other ∧ isPathEnd c then (.segments [], cs)
    else readPath k [] cs

def isAuthorityEnd (k : SchemeKind) (c : Char) : Bool := isSlash k c || isPathEnd c

def splitAtLast (sep : Char) (cs : List Char) : Option (List Char × List Char) :=
  if sep ∈ cs then
    let after := (cs.reverse.takeWhile (· ≠ sep)).reverse
    some (cs.take (cs.length - after.length - 1), after)
  else none

def readUserinfo (cs : List Char) : String × String :=
  let encode (part : List Char) := String.ofList (percentEncode isEncodedInUserinfo part)
  (encode (cs.takeWhile (· ≠ ':')), encode ((cs.dropWhile (· ≠ ':')).drop 1))

/-- A text up to the colon before a port, colons in brackets not counting. -/
def hostPart : (inBrackets : Bool) → List Char → List Char × List Char
  | _, [] => ([], [])
  | inBrackets, c :: rest =>
    if c = ':' ∧ ¬ inBrackets then ([], c :: rest)
    else
      let r := hostPart (if c = '[' then true else if c = ']' then false else inBrackets) rest
      (c :: r.1, r.2)

/-- A port after its colon, nothing for the default of the scheme or for no digits at all. -/
def readPort (scheme : String) (cs : List Char) : Except UrlFault (Option Nat) :=
  match cs with
  | [] => .ok none
  | _ :: digits =>
    if digits = [] then .ok none
    else if ¬ digits.all Char.isDigit then .error .invalidPort
    else
      match Text.Numeral.readChars Text.max16 digits with
      | .error _ => .error .invalidPort
      | .ok n => .ok (if defaultPort scheme = some n then none else some n)

/-- Read an authority and all that comes after it. -/
def readAuthority (scheme : String) (cs : List Char) : Except UrlFault Url := do
  let k := schemeKind scheme
  let authority := cs.takeWhile fun c => !isAuthorityEnd k c
  let rest := cs.dropWhile fun c => !isAuthorityEnd k c
  let (username, password, hostAndPort) ←
    match splitAtLast '@' authority with
    | none => pure ("", "", authority)
    | some (info, after) =>
      if info = [] ∧ after = [] ∧ rest ≠ [] then throw .emptyHost
      else
        let (u, p) := readUserinfo info
        pure (u, p, after)
  let (hostText, portText) := hostPart false hostAndPort
  if hostText = [] ∧ (k = .web ∨ portText ≠ [] ∨ username ≠ "" ∨ password ≠ "") then
    throw .emptyHost
  let host ← if k = .web then readHost hostText else readOpaqueHost hostText
  let port ← readPort scheme portText
  let (path, tail) := readPathStart k rest
  let (query, fragment) := readTail k tail
  return { scheme, username, password, host := some host, port, path, query, fragment }

def readFile (cs : List Char) : Except UrlFault Url := do
  match cs with
  | a :: b :: rest =>
    if isSlash .file a ∧ isSlash .file b then
      let authority := rest.takeWhile fun c => !isAuthorityEnd .file c
      let after := rest.dropWhile fun c => !isAuthorityEnd .file c
      if isDriveLetter authority then
        finish "" (readPath .file [] rest)
      else if authority = [] then
        finish "" (readPathStart .file after)
      else
        let host ← readHost authority
        finish (if host = "localhost" then "" else host) (readPathStart .file after)
    else finish "" (readPathStart .file cs)
  | _ => finish "" (readPathStart .file cs)
where
  finish (host : String) (p : Path × List Char) : Except UrlFault Url :=
    let (query, fragment) := readTail .file p.2
    .ok { scheme := "file", host := some host, path := p.1, query, fragment }

def replacePath (base : Url) (p : Path × List Char) : Url :=
  let (query, fragment) := readTail base.kind p.2
  { base with path := p.1, query, fragment }

def Path.list : Path → List String
  | .segments l => l
  | .opaqueText _ => []

/-- Read a reference that has no scheme of its own. -/
def readRelative (base : Url) (cs : List Char) : Except UrlFault Url :=
  let k := base.kind
  match cs with
  | [] => .ok { base with fragment := none }
  | c :: rest =>
    if c = '#' then .ok { base with fragment := (readTail k cs).2 }
    else if c = '?' then
      let (query, fragment) := readTail k cs
      .ok { base with query, fragment }
    else if c = '/' ∨ c = '\\' then
      match rest with
      | d :: more =>
        if d = '/' ∨ d = '\\' then
          if k = .file then readFile cs
          else readAuthority base.scheme (if k = .web then
            more.dropWhile fun c => c = '/' ∨ c = '\\' else more)
        else .ok (replacePath base (readPath k [] rest))
      | [] => .ok (replacePath base (readPath k [] []))
    else .ok (replacePath base (readPath k (shorten k base.path.list) cs))

def readOther (scheme : String) (cs : List Char) : Except UrlFault Url :=
  match cs with
  | '/' :: '/' :: rest => readAuthority scheme rest
  | '/' :: rest =>
    let (path, tail) := readPath .other [] rest
    let (query, fragment) := readTail .other tail
    .ok { scheme, path, query, fragment }
  | _ =>
    let (query, fragment) := readTail .other (cs.dropWhile fun c => !isPathEnd c)
    let text := percentEncode isAlwaysEncoded (cs.takeWhile fun c => !isPathEnd c)
    .ok { scheme, path := .opaqueText (String.ofList text), query, fragment }

/-- Read what comes after a web scheme: any number of slashes, then an authority. With fewer than
two of them, after the scheme of the base, it is a relative reference. -/
def readWeb (base : Option Url) (scheme : String) (cs : List Char) : Except UrlFault Url :=
  let slashes := cs.takeWhile (isSlash .web)
  let absolute := readAuthority scheme (cs.dropWhile (isSlash .web))
  match base with
  | none => absolute
  | some b => if slashes.length < 2 ∧ b.scheme = scheme then readRelative b cs else absolute

def readCleaned (base : Option Url) (cs : List Char) : Except UrlFault Url :=
  match readScheme cs with
  | some (scheme, rest) =>
    match schemeKind scheme with
    | .web => readWeb base scheme rest
    | .file => readFile rest
    | .other => readOther scheme rest
  | none =>
    match base with
    | none => .error .relativeWithoutBase
    | some b =>
      match b.path with
      | .opaqueText _ =>
        if cs.head? = some '#' then .ok { b with fragment := (readTail .other cs).2 }
        else .error .baseCannotBeABase
      | .segments _ => readRelative b cs

def read (s : String) : Except UrlFault Url := readCleaned none (clean s)

/-- Read a reference relative to a URL. -/
def join (base : Url) (s : String) : Except UrlFault Url := readCleaned (some base) (clean s)

end Rollcall.Url
