/-!
# PEM blocks

A block of binary data in text: a line that says what begins, the data in base 64, and a line that
says the same thing ends. Text before the first block is passed over.
-/
namespace Rollcall.Text.Pem

def beginLine (label : String) : String := "-----BEGIN " ++ label ++ "-----"
def endLine (label : String) : String := "-----END " ++ label ++ "-----"

def digit64? (c : Char) : Option Nat :=
  if 'A' ≤ c ∧ c ≤ 'Z' then some (c.toNat - 65)
  else if 'a' ≤ c ∧ c ≤ 'z' then some (c.toNat - 71)
  else if '0' ≤ c ∧ c ≤ '9' then some (c.toNat + 4)
  else if c = '+' then some 62
  else if c = '/' then some 63
  else none

/-- The bytes that groups of four digits stand for; the last group may be padded. -/
def decode64 : List Char → Option (List UInt8)
  | [] => some []
  | [a, b, '=', '='] => do
    let n := (← digit64? a) * 64 + (← digit64? b)
    return [UInt8.ofNat (n / 16)]
  | [a, b, c, '='] => do
    let n := ((← digit64? a) * 64 + (← digit64? b)) * 64 + (← digit64? c)
    return [UInt8.ofNat (n / 1024), UInt8.ofNat (n / 4)]
  | a :: b :: c :: d :: rest => do
    let n := (((← digit64? a) * 64 + (← digit64? b)) * 64 + (← digit64? c)) * 64 + (← digit64? d)
    let more ← decode64 rest
    return UInt8.ofNat (n / 65536) :: UInt8.ofNat (n / 256) :: UInt8.ofNat n :: more
  | _ => none

def first? (names : List String) (text : String) : Option (List UInt8) :=
  let lines := (text.splitOn "\n").map fun l => l.trimAsciiEnd.toString
  let begins (l : String) : Bool := names.any fun name => l = beginLine name
  match lines.dropWhile fun l => !begins l with
  | [] => none
  | opening :: rest =>
    match names.find? fun name => opening = beginLine name with
    | none => none
    | some name =>
      let data := rest.takeWhile fun l => l ≠ endLine name
      if (rest.drop data.length).isEmpty then none
      else decode64 (data.flatMap String.toList)

/-- The length that a structure announces after its tag, and how many bytes say so. -/
def announcedLength : List UInt8 → Option (Nat × Nat)
  | [] => none
  | b :: rest =>
    if b.toNat < 0x80 then some (b.toNat, 1)
    else
      let n := b.toNat - 0x80
      if n = 0 ∨ n > 4 ∨ rest.length < n then none
      else some ((rest.take n).foldl (fun v b => v * 256 + b.toNat) 0, n + 1)

def isSequence : List UInt8 → Bool
  | 0x30 :: rest =>
    match announcedLength rest with
    | some (length, used) => rest.length = used + length
    | none => false
  | _ => false

/-- The text holds a certificate. -/
def hasCertificate (text : String) : Bool :=
  match first? ["CERTIFICATE", "X509 CERTIFICATE", "TRUSTED CERTIFICATE"] text with
  | some data => isSequence data
  | none => false

/-- The text starts with a private key of the general form. -/
def isPrivateKey (text : String) : Bool :=
  (beginLine "PRIVATE KEY").toList.isPrefixOf text.toList &&
    match first? ["PRIVATE KEY"] text with
    | some data => isSequence data
    | none => false

end Rollcall.Text.Pem
