import MailRound.Json.Basic
import MailRound.Json.Double
import MailRound.Text.Quoted

namespace MailRound.Json

def hexPadded (n : Nat) : List Char :=
  let ds := Nat.toDigits 16 n
  List.replicate (4 - ds.length) '0' ++ ds

def escapeChar (c : Char) : List Char :=
  if c = '"' then ['\\', '"']
  else if c = '\\' then ['\\', '\\']
  else if c = '\n' then ['\\', 'n']
  else if c = '\r' then ['\\', 'r']
  else if c = '\t' then ['\\', 't']
  else if c = '\x08' then ['\\', 'b']
  else if c = '\x0c' then ['\\', 'f']
  else if c.toNat < 0x20 then '\\' :: 'u' :: hexPadded c.toNat
  else [c]

def printText (s : String) : String :=
  String.ofList ('"' :: (s.toList.flatMap escapeChar ++ ['"']))

mutual

/-- The text of a value without any space. -/
def print : Json → String
  | .null => "null"
  | .bool b => if b then "true" else "false"
  | .int n => Text.decimalInt n
  | .float bits => Double.render bits
  | .str s => printText s
  | .arr items => "[" ++ ",".intercalate (printItems items) ++ "]"
  | .obj ms => "\x7b" ++ ",".intercalate (printMembers ms) ++ "\x7d"

def printItems : List Json → List String
  | [] => []
  | j :: js => print j :: printItems js

def printMembers : List (String × Json) → List String
  | [] => []
  | (k, j) :: ms => (printText k ++ ":" ++ print j) :: printMembers ms

end

end MailRound.Json
