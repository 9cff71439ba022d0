import Rollcall.Url.Fault
import Rollcall.Url.Percent

/-!
# Hosts of URLs

A host with a web scheme is a domain, an IPv4 address in any of its numeric notations, or an IPv6
address in brackets; it is kept in its normal form. Domains are plain ASCII here. Other schemes have
hosts that are not looked into.
-/
namespace Rollcall.Url

inductive Ipv4Number where
  | value (n : Nat)
  | overflow
  | malformed

def digitsIn (base : Nat) (cs : List Char) : Option Nat :=
  cs.foldl (fun v c =>
    match v, Text.hexDigit? c with
    | some v, some d => if d < base then some (v * base + d) else none
    | _, _ => none) (some 0)

/-- A number in base ten, in base eight after a zero, or in base sixteen after a zero and an x. -/
def readIpv4Number (cs : List Char) : Ipv4Number :=
  let (base, digits) := match cs with
    | '0' :: 'x' :: rest => (16, rest)
    | '0' :: 'X' :: rest => (16, rest)
    | '0' :: c :: rest => (8, c :: rest)
    | _ => (10, cs)
  if cs = [] then .malformed
  else
    match digitsIn base digits with
    | none => .malformed
    | some n => if n < 4294967296 then .value n else .overflow

def splitAtChar (sep : Char) : List Char → List (List Char)
  | [] => [[]]
  | c :: rest =>
    if c = sep then [] :: splitAtChar sep rest
    else
      match splitAtChar sep rest with
      | [] => [[c]]
      | part :: parts => (c :: part) :: parts

/-- The parts of a domain, without an empty one at its end. -/
def labels (cs : List Char) : List (List Char) :=
  let parts := splitAtChar '.' cs
  if parts.getLast? = some [] ∧ parts.length ≠ 1 then parts.dropLast else parts

/-- A domain whose last label is numeric is an address. -/
def endsInNumber (cs : List Char) : Bool :=
  match (labels cs).getLast? with
  | none => false
  | some last =>
    (last ≠ [] && last.all Char.isDigit) ||
      match readIpv4Number last with
      | .malformed => false
      | _ => true

/-- The value of an address: every part but the last is a byte, the last fills the rest. -/
def readIpv4 (cs : List Char) : Option Nat :=
  let parts := labels cs
  let numbers := parts.mapM fun p =>
    match readIpv4Number p with
    | .value n => some n
    | _ => none
  match numbers with
  | none => none
  | some numbers =>
    match numbers.getLast? with
    | none => none
    | some last =>
      let leading := numbers.dropLast
      let room := Nat.pow 256 (5 - numbers.length)
      if numbers.length > 4 ∨ leading.any (· > 255) ∨ last ≥ room then none
      else some (leading.foldl (fun v n => v * 256 + n) 0 * room + last)

def showIpv4 (n : Nat) : String :=
  s!"{n / 16777216 % 256}.{n / 65536 % 256}.{n / 256 % 256}.{n % 256}"

/-- A group of one to four hexadecimal digits. -/
def readGroup (cs : List Char) : Option Nat :=
  if cs = [] ∨ cs.length > 4 then none else digitsIn 16 cs

/-- A byte in base ten without a leading zero. -/
def readByte (cs : List Char) : Option Nat :=
  match cs with
  | [] => none
  | '0' :: _ :: _ => none
  | _ =>
    if cs.length > 3 ∨ ¬ cs.all Char.isDigit then none
    else (digitsIn 10 cs).bind fun n => if n ≤ 255 then some n else none

/-- The groups between colons; the last may be an IPv4 address, which fills two. -/
def readGroups : List (List Char) → Option (List Nat)
  | [] => some []
  | [last] =>
    if '.' ∈ last then
      match (splitAtChar '.' last).mapM readByte with
      | some [a, b, c, d] => some [a * 256 + b, c * 256 + d]
      | _ => none
    else (readGroup last).map ([·])
  | part :: rest => do
    let g ← readGroup part
    let more ← readGroups rest
    return g :: more

def splitAtDouble : List Char → Option (List Char × List Char)
  | ':' :: ':' :: rest => some ([], rest)
  | c :: rest => (splitAtDouble rest).map fun p => (c :: p.1, p.2)
  | [] => none

/-- The groups on one side of a double colon. -/
def readSide (cs : List Char) : Option (List Nat) :=
  if cs = [] then some [] else readGroups (splitAtChar ':' cs)

/-- The eight groups of an address; a double colon stands for one zero or more. -/
def readIpv6 (cs : List Char) : Option (List Nat) :=
  match splitAtDouble cs with
  | none => (readGroups (splitAtChar ':' cs)).bind fun g => if g.length = 8 then some g else none
  | some (left, right) =>
    if '.' ∈ left then none
    else do
      let l ← readSide left
      let r ← readSide right
      if l.length + r.length > 7 then none
      else some (l ++ List.replicate (8 - l.length - r.length) 0 ++ r)

def zeroRun (groups : List Nat) : Nat := (groups.takeWhile (· = 0)).length

def longestZeroRun : (place : Nat) → List Nat → Nat × Nat
  | place, [] => (place, 0)
  | place, g :: rest =>
    let here := zeroRun (g :: rest)
    let later := longestZeroRun (place + 1) rest
    if later.2 > here then later else (place, here)

def joinGroups (groups : List Nat) : String :=
  String.intercalate ":" (groups.map fun g => String.ofList (Text.shortHex g))

/-- Groups in lower case, the first longest run of two zeros or more being left out. -/
def showIpv6 (groups : List Nat) : String :=
  let (place, length) := longestZeroRun 0 groups
  if length < 2 then joinGroups groups
  else joinGroups (groups.take place) ++ "::" ++ joinGroups (groups.drop (place + length))

def isForbiddenInHost (c : Char) : Bool :=
  c = '\x00' || c = '\t' || c = '\n' || c = '\r' || c = ' ' || c = '#' || c = '/' || c = ':' ||
    c = '<' || c = '>' || c = '?' || c = '@' || c = '[' || c = '\\' || c = ']' || c = '^' || c = '|'

def isForbiddenInDomain (c : Char) : Bool :=
  isForbiddenInHost c || c.toNat ≤ 0x20 || c = '%' || 0x7F ≤ c.toNat

/-- An address in brackets, the opening one being behind. -/
def readBracketed (cs : List Char) : Except UrlFault String :=
  if cs.getLast? = some ']' then
    match readIpv6 cs.dropLast with
    | some groups => .ok ("[" ++ showIpv6 groups ++ "]")
    | none => .error .invalidIpv6
  else .error .invalidIpv6

/-- The normal form of a host of a web scheme. Domains are those of ASCII: one with other characters,
which would have to be mapped to ASCII first, is refused. -/
def readHost (cs : List Char) : Except UrlFault String :=
  match cs with
  | '[' :: rest => readBracketed rest
  | _ =>
    let domain := (Text.Utf8.decodeLossy (percentDecode cs)).toList.map Char.toLower
    if domain = [] then .error .emptyHost
    else if domain.any isForbiddenInDomain then .error .invalidDomainName
    else if endsInNumber domain then
      match readIpv4 domain with
      | some n => .ok (showIpv4 n)
      | none => .error .invalidIpv4
    else .ok (String.ofList domain)

/-- A host of any other scheme. -/
def readOpaqueHost (cs : List Char) : Except UrlFault String :=
  match cs with
  | '[' :: rest => readBracketed rest
  | _ =>
    if cs.any isForbiddenInHost then .error .invalidDomainCharacter
    else .ok (String.ofList (percentEncode isAlwaysEncoded cs))

end Rollcall.Url
