import MailRound.Text.Base64

namespace MailRound.Mime.Charset

/-- Code units of sixteen bits; a surrogate without its partner becomes one replacement
character. -/
def ofUnits : List Nat → List Char
  | [] => []
  | [u] => [if 0xD800 ≤ u ∧ u < 0xE000 then Char.ofNat 0xFFFD else Char.ofNat u]
  | u :: v :: rest =>
    if 0xD800 ≤ u ∧ u < 0xDC00 ∧ 0xDC00 ≤ v ∧ v < 0xE000 then
      Char.ofNat (0x10000 + (u - 0xD800) * 0x400 + (v - 0xDC00)) :: ofUnits rest
    else if 0xD800 ≤ u ∧ u < 0xE000 then Char.ofNat 0xFFFD :: ofUnits (v :: rest)
    else Char.ofNat u :: ofUnits (v :: rest)

def bigUnits : Bytes → List Nat
  | a :: b :: rest => (a.toNat * 256 + b.toNat) :: bigUnits rest
  | _ => []

def littleUnits : Bytes → List Nat
  | a :: b :: rest => (b.toNat * 256 + a.toNat) :: littleUnits rest
  | _ => []

def decodeBig (bs : Bytes) : String := String.ofList (ofUnits (bigUnits bs))

def decodeLittle (bs : Bytes) : String := String.ofList (ofUnits (littleUnits bs))

/-- A mark at the beginning tells the order of the bytes; without one the lower comes first. -/
def decodeMarked : Bytes → String
  | 0xFE :: 0xFF :: bs => decodeBig bs
  | 0xFF :: 0xFE :: bs => decodeLittle bs
  | bs => decodeLittle bs

/-- Whole code units behind groups of six bits; the bits left over do not count. -/
def shiftedUnits : (bits width : Nat) → List Nat → List Nat
  | _, _, [] => []
  | bits, width, v :: vs =>
    let bits := bits * 64 + v
    let width := width + 6
    if 16 ≤ width then
      bits / Nat.pow 2 (width - 16) :: shiftedUnits (bits % Nat.pow 2 (width - 16)) (width - 16) vs
    else shiftedUnits bits width vs

/-- Text in seven bits: a plus sign opens a stretch in Base64, which a minus sign or any other
character ends; the minus sign is part of the stretch. -/
def decodeShifted : (stretch : Option (List Nat)) → Bytes → List Char
  | none, [] => []
  | some vs, [] => ofUnits (shiftedUnits 0 0 vs.reverse)
  | none, b :: bs =>
    if b = 43 then
      match bs with
      | 45 :: rest => '+' :: decodeShifted none rest
      | bs => decodeShifted (some []) bs
    else Char.ofUInt8 b :: decodeShifted none bs
  | some vs, b :: bs =>
    match Text.Base64.standard.value? b with
    | some v => decodeShifted (some (v :: vs)) bs
    | none =>
      ofUnits (shiftedUnits 0 0 vs.reverse) ++
        (if b = 45 then [] else [Char.ofUInt8 b]) ++ decodeShifted none bs

end MailRound.Mime.Charset
