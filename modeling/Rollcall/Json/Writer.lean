import Rollcall.Document.Basic
import Rollcall.Text.Hex

/-!
# Writing JSON

The compact form: no blanks, text as it is but for quotes, backslashes and control characters, and
tables in the order of their fields.
-/
namespace Rollcall.Json

def escapeChar (c : Char) : List Char :=
  match c with
  | '"' => ['\\', '"']
  | '\\' => ['\\', '\\']
  | '\n' => ['\\', 'n']
  | '\r' => ['\\', 'r']
  | '\t' => ['\\', 't']
  | '\x08' => ['\\', 'b']
  | '\x0c' => ['\\', 'f']
  | c => if c.toNat < 0x20 then '\\' :: 'u' :: Text.fixedHex 4 c.toNat else [c]

def quote (s : String) : String := String.ofList ('"' :: (s.toList.flatMap escapeChar ++ ['"']))

mutual

def render : Document → String
  | .null => "null"
  | .bool true => "true"
  | .bool false => "false"
  | .int n => toString n
  | .real literal => literal
  | .text s => quote s
  | .moment literal => quote literal
  | .list items => "[" ++ renderItems items ++ "]"
  | .table fields => "\x7b" ++ renderFields fields ++ "\x7d"

def renderItems : List Document → String
  | [] => ""
  | [d] => render d
  | d :: rest => render d ++ "," ++ renderItems rest

def renderFields : List (String × Document) → String
  | [] => ""
  | [(k, d)] => quote k ++ ":" ++ render d
  | (k, d) :: rest => quote k ++ ":" ++ render d ++ "," ++ renderFields rest

end

end Rollcall.Json
