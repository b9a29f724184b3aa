import MailRound.Text.Numeral
import MailRound.Text.Utf8

namespace MailRound.Text.Base64

/-- The two alphabets differ in the symbols for 62 and 63. -/
structure Alphabet where
  plus : Char
  slash : Char
  deriving DecidableEq, Repr

def standard : Alphabet := ⟨'+', '/'⟩

def urlSafe : Alphabet := ⟨'-', '_'⟩

def Alphabet.symbol (a : Alphabet) (v : Nat) : Char :=
  if v < 26 then Char.ofNat (65 + v)
  else if v < 52 then Char.ofNat (71 + v)
  else if v < 62 then Char.ofNat (v - 4)
  else if v = 62 then a.plus
  else a.slash

def Alphabet.value? (a : Alphabet) (b : UInt8) : Option Nat :=
  let n := b.toNat
  if 65 ≤ n ∧ n ≤ 90 then some (n - 65)
  else if 97 ≤ n ∧ n ≤ 122 then some (n - 71)
  else if 48 ≤ n ∧ n ≤ 57 then some (n + 4)
  else if n = a.plus.toNat then some 62
  else if n = a.slash.toNat then some 63
  else none

inductive Fault where
  | symbol (offset : Nat) (byte : UInt8)
  | lastSymbol (offset : Nat) (byte : UInt8)
  | length (n : Nat)
  deriving DecidableEq, Repr

def Fault.message : Fault → String
  | .symbol offset byte =>
    "Invalid symbol " ++ decimal byte.toNat ++ ", offset " ++ decimal offset ++ "."
  | .lastSymbol offset byte =>
    "Invalid last symbol " ++ decimal byte.toNat ++ ", offset " ++ decimal offset ++ "."
  | .length n => "Invalid input length: " ++ decimal n

/-- Three bytes make four groups of six bits; a shorter end is filled up with zero bits. -/
def sextets : Bytes → List Nat
  | [] => []
  | [x] => [x.toNat / 4, x.toNat % 4 * 16]
  | [x, y] => [x.toNat / 4, x.toNat % 4 * 16 + y.toNat / 16, y.toNat % 16 * 4]
  | x :: y :: z :: rest =>
    x.toNat / 4 :: (x.toNat % 4 * 16 + y.toNat / 16) :: (y.toNat % 16 * 4 + z.toNat / 64) ::
      z.toNat % 64 :: sextets rest

def encode (a : Alphabet) (bs : Bytes) : String :=
  String.ofList ((sextets bs).map a.symbol)

def byte (n : Nat) : UInt8 := UInt8.ofNat n

/-- Why groups of six bits are no bytes: one is left over, or the bits that fill up the last
group are not all zero. -/
inductive Leftover where
  | single
  | bits
  deriving DecidableEq, Repr

def ofSextets : List Nat → Except Leftover Bytes
  | [] => .ok []
  | [_] => .error .single
  | [v, w] => if w % 16 = 0 then .ok [byte (v * 4 + w / 16)] else .error .bits
  | [v, w, x] =>
    if x % 4 = 0 then .ok [byte (v * 4 + w / 16), byte (w % 16 * 16 + x / 4)] else .error .bits
  | v :: w :: x :: y :: rest =>
    match ofSextets rest with
    | .ok bs =>
      .ok (byte (v * 4 + w / 16) :: byte (w % 16 * 16 + x / 4) :: byte (x % 4 * 64 + y) :: bs)
    | .error e => .error e

def values (a : Alphabet) : Nat → Bytes → Except Fault (List Nat)
  | _, [] => .ok []
  | i, b :: bs =>
    match a.value? b with
    | none => .error (.symbol i b)
    | some v => (values a (i + 1) bs).map (v :: ·)

/-- Decodes text without padding. A foreign symbol that makes the length one more than a multiple
of four is reported before all others, since it is most often a stray line end. -/
def decode (a : Alphabet) (input : Bytes) : Except Fault Bytes :=
  let final := input.getLast?
  let stray := final.filter fun b => input.length % 4 = 1 && (a.value? b).isNone && b != 61
  match stray with
  | some b => .error (.symbol (input.length - 1) b)
  | none =>
    match values a 0 input with
    | .error e => .error e
    | .ok vs =>
      match ofSextets vs with
      | .ok bs => .ok bs
      | .error .single => .error (.length input.length)
      | .error .bits => .error (.lastSymbol (input.length - 1) (final.getD 0))

/-- Decodes text that is filled up to a multiple of four with one or two padding symbols. -/
def decodePadded? (a : Alphabet) (input : Bytes) : Option Bytes :=
  if input.length % 4 = 0 then
    let body := match input.reverse with
      | 61 :: 61 :: rest => rest.reverse
      | 61 :: rest => rest.reverse
      | _ => input
    (decode a body).toOption
  else none

end MailRound.Text.Base64
