import MailRound.Mime.Charset
import MailRound.Mime.Transfer

namespace MailRound.Mime.EncodedWord

def isGap (b : UInt8) : Bool := b == 32 || b == 9

/-- The bytes of a word in the Q encoding up to its closing mark, and how many bytes they took.
`folding` holds while the blanks that open a continued line are passed over. An escape that the
closing mark cuts off is dropped. -/
def quoted (folding : Bool) (escape : Transfer.Escape) : Bytes → Option (Bytes × Nat)
  | [] => none
  | b :: bs =>
    if folding && isGap b then (quoted true escape bs).map fun (ds, n) => (ds, n + 1)
    else
      match Char.ofUInt8 b, escape with
      | '\r', _ => (quoted false escape bs).map fun (ds, n) => (ds, n + 1)
      | '\n', _ =>
        if (bs.head?.map isGap).getD false then
          (quoted true escape bs).map fun (ds, n) => (ds, n + 1)
        else none
      | '?', _ =>
        if bs.head? = some 61 then some ([], 2)
        else (quoted false escape bs).map fun (ds, n) => (63 :: ds, n + 1)
      | '_', _ => (quoted false escape bs).map fun (ds, n) => (32 :: ds, n + 1)
      | '=', .none => (quoted false .opened bs).map fun (ds, n) => (ds, n + 1)
      | _, .none => (quoted false .none bs).map fun (ds, n) => (b :: ds, n + 1)
      | c, .opened =>
        match Text.hexDigitValue? c with
        | some v => (quoted false (.half v) bs).map fun (ds, n) => (ds, n + 1)
        | none => none
      | c, .half v =>
        match Text.hexDigitValue? c with
        | some w =>
          (quoted false .none bs).map fun (ds, n) => (UInt8.ofNat (v * 16 + w) :: ds, n + 1)
        | none => none

def base64 (bs : Bytes) : Option (Bytes × Nat) :=
  let data := bs.takeWhile (· ≠ 63)
  match bs.drop data.length with
  | 63 :: 61 :: _ =>
    if data.contains 45 then none
    else (Transfer.base64? data).map fun ds => (ds, data.length + 2)
  | _ => none

/-- The name of a character set ends at a star, after which a language may stand. -/
def charsetName : Bytes → Bytes
  | [] => []
  | b :: bs => b :: bs.takeWhile (· ≠ 42)

/-- Reads an encoded word whose opening equals sign is behind: the text and how many bytes it took.
The name of the character set has two characters at least. -/
def read? : Bytes → Option (String × Nat)
  | 63 :: bs =>
    let label := bs.takeWhile fun b => b ≠ 63 && b ≠ 10
    let name := charsetName label
    if 2 ≤ name.length then
      match bs.drop label.length with
      | 63 :: e :: 63 :: data =>
        let bytes :=
          match Char.ofUInt8 e with
          | 'q' | 'Q' => quoted false .none data
          | 'b' | 'B' => base64 data
          | _ => none
        bytes.map fun (ds, n) => (Charset.decodeNamed name ds, label.length + 4 + n)
      | _ => none
    else none
  | _ => none

end MailRound.Mime.EncodedWord
