import MailRound.Text.Numeral
import MailRound.Text.Utf8

namespace MailRound.Web

def upperHexDigit (n : Nat) : Char :=
  if n < 10 then Char.ofNat (48 + n) else Char.ofNat (55 + n)

def percentByte (b : UInt8) : List Char :=
  ['%', upperHexDigit (b.toNat / 16), upperHexDigit (b.toNat % 16)]

def percentChar (c : Char) : List Char :=
  (String.utf8EncodeChar c).flatMap percentByte

def percentEncode (safe : Char → Bool) (cs : List Char) : List Char :=
  cs.flatMap fun c => if safe c then [c] else percentChar c

def isControl (c : Char) : Bool := c.toNat < 0x20 || c.toNat == 0x7F

def isPlain (c : Char) : Bool := 0x20 < c.toNat && c.toNat < 0x7F

def safeIn (special : List Char) (c : Char) : Bool := isPlain c && !special.contains c

/-- Bytes behind a text; a percent sign without two digits stands for itself. -/
def percentDecode : List Char → Bytes
  | [] => []
  | '%' :: h :: l :: cs =>
    match Text.hexDigitValue? h, Text.hexDigitValue? l with
    | some x, some y => UInt8.ofNat (x * 16 + y) :: percentDecode cs
    | _, _ => 37 :: percentDecode (h :: l :: cs)
  | c :: cs => String.utf8EncodeChar c ++ percentDecode cs

end MailRound.Web
