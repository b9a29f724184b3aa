import MailRound.Text.Numeral

namespace MailRound.Json.Double

/-- A power of ten with an exponent up to 308, rounded to the nearest double. -/
def powerOfTen (e : Nat) : Float :=
  Float.ofScientific 1 false e

/-- Divides by powers of ten until the exponent is used up; three steps take every significand
to zero. -/
def scaleDown : Nat → Float → Nat → Float
  | 0, f, _ => f
  | fuel + 1, f, e =>
    if e ≤ 308 then f / powerOfTen e
    else if f == 0.0 then f
    else scaleDown fuel (f / powerOfTen 308) (e - 308)

/-- The value of `significand · 10 ^ exponent`, taken as the rounded significand times or over a
power of ten, or none when that is too large. -/
def ofParts? (negative : Bool) (significand : Nat) (exponent : Int) : Option UInt64 :=
  let f := (UInt64.ofNat significand).toFloat
  let signed (g : Float) : UInt64 := (if negative then -g else g).toBits
  match exponent with
  | .ofNat e =>
    if e ≤ 308 then
      let g := f * powerOfTen e
      if g.isInf then none else some (signed g)
    else if f == 0.0 then some (signed f)
    else none
  | .negSucc e => some (signed (scaleDown 4 f (e + 1)))

/-- A finite positive double is `mantissa · 2 ^ exponent`. -/
structure Parts where
  mantissa : Nat
  exponent : Int
  deriving DecidableEq, Repr

/-- The bit above the fraction, which is not written. -/
def hiddenBit : Nat := 4503599627370496

def parts (bits : UInt64) : Parts :=
  let fraction := bits.toNat % hiddenBit
  let e : Nat := bits.toNat / hiddenBit % 2048
  if e = 0 then ⟨fraction, -1074⟩ else ⟨hiddenBit + fraction, Int.ofNat e - 1075⟩

/-- The reals that round to a double lie between `low / den` and `high / den` around
`mid / den`. -/
structure Interval where
  low : Nat
  mid : Nat
  high : Nat
  den : Nat
  closed : Bool

def interval (p : Parts) : Interval :=
  let m := p.mantissa
  let gap := if m = hiddenBit ∧ -1074 < p.exponent then 1 else 2
  let scale := if 0 ≤ p.exponent then Nat.pow 2 p.exponent.toNat else 1
  let den := if 0 ≤ p.exponent then 4 else 4 * Nat.pow 2 (-p.exponent).toNat
  ⟨(4 * m - gap) * scale, 4 * m * scale, (4 * m + 2) * scale, den, m % 2 = 0⟩

def Interval.contains (i : Interval) (num den : Nat) : Bool :=
  let x := num * i.den
  let l := i.low * den
  let h := i.high * den
  if i.closed then l ≤ x && x ≤ h else l < x && x < h

/-- The point of the grid `10 ^ e · n` that lies in the interval and is nearest to its middle, an
even `n` at a tie. -/
def Interval.gridPoint? (i : Interval) (e : Int) : Option Nat :=
  let up := if 0 ≤ e then Nat.pow 10 e.toNat else 1
  let down := if 0 ≤ e then 1 else Nat.pow 10 (-e).toNat
  let n := i.mid * down / (i.den * up)
  let inside (k : Nat) : Bool := i.contains (k * up) down
  match inside n, inside (n + 1) with
  | true, true =>
    let below := i.mid * down - n * up * i.den
    let above := (n + 1) * up * i.den - i.mid * down
    if below < above ∨ (below = above ∧ n % 2 = 0) then some n else some (n + 1)
  | true, false => some n
  | false, true => some (n + 1)
  | false, false => none

/-- Coarser grids first: the first grid with a point inside gives the fewest digits. -/
def Interval.search (i : Interval) : Nat → Int → Nat × Int
  | 0, e => (0, e)
  | fuel + 1, e =>
    match i.gridPoint? e with
    | some 0 => i.search fuel (e - 1)
    | some n => (n, e)
    | none => i.search fuel (e - 1)

/-- The digits and the power of ten of the shortest decimal that reads back. -/
def shortest (bits : UInt64) : Nat × Int :=
  (interval (parts bits)).search 660 309

/-- Positional between 10^-5 and 10^16, always with a fraction; an exponent has its sign. -/
def render (bits : UInt64) : String :=
  let sign := if bits.toNat < Text.limit63 then "" else "-"
  let body :=
    if bits.toNat % Text.limit63 = 0 then "0.0"
    else
      let (n, e) := shortest bits
      let digits := Nat.toDigits 10 n
      let point : Int := e + digits.length
      if 0 ≤ e ∧ point ≤ 16 then
        String.ofList (digits ++ List.replicate e.toNat '0') ++ ".0"
      else if 0 < point ∧ point ≤ 16 then
        String.ofList (digits.take point.toNat) ++ "." ++ String.ofList (digits.drop point.toNat)
      else if -5 < point ∧ point ≤ 0 then
        "0." ++ String.ofList (List.replicate (-point).toNat '0' ++ digits)
      else
        let tail := match digits.drop 1 with
          | [] => ""
          | ds => "." ++ String.ofList ds
        let mark := if point - 1 < 0 then "e-" else "e+"
        String.ofList (digits.take 1) ++ tail ++ mark ++ Text.decimal (point - 1).natAbs
  sign ++ body

end MailRound.Json.Double
