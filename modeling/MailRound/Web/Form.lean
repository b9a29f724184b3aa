import MailRound.Web.Percent

namespace MailRound.Web.Form

def isKept (b : UInt8) : Bool :=
  let n := b.toNat
  (48 ≤ n && n ≤ 57) || (65 ≤ n && n ≤ 90) || (97 ≤ n && n ≤ 122) ||
    n == 42 || n == 45 || n == 46 || n == 95

/-- A blank becomes a plus sign; letters, digits and `*-._` stay; all else is written with percent
signs. -/
def encodeByte (b : UInt8) : List Char :=
  if isKept b then [Char.ofNat b.toNat]
  else if b = 32 then ['+']
  else percentByte b

def encode (s : String) : List Char := (Text.Utf8.encode s).flatMap encodeByte

def pair (p : String × String) : String :=
  String.ofList (encode p.1 ++ '=' :: encode p.2)

def text (pairs : List (String × String)) : String :=
  "&".intercalate (pairs.map pair)

end MailRound.Web.Form
