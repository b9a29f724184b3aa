import MailRound.Text.Numeral

namespace MailRound.Web.Punycode

def digit (n : Nat) : Char := if n < 26 then Char.ofNat (97 + n) else Char.ofNat (22 + n)

/-- The highest digit value, less one, with which a number may end at a place. -/
def threshold (bias place : Nat) : Nat :=
  if place ≤ bias then 1 else if bias + 26 ≤ place then 26 else place - bias

/-- The digits of a number from the place `k` on; `fuel` is the number of digits at most. -/
def digits (bias : Nat) : Nat → Nat → Nat → List Char
  | 0, _, _ => []
  | fuel + 1, k, n =>
    let t := threshold bias k
    if n < t then [digit n]
    else digit (t + (n - t) % (36 - t)) :: digits bias fuel (k + 36) ((n - t) / (36 - t))

/-- Divides until a step is small, and counts the divisions in steps of 36. -/
def settle : Nat → Nat → Nat → Nat × Nat
  | 0, k, delta => (k, delta)
  | fuel + 1, k, delta => if 455 < delta then settle fuel (k + 36) (delta / 35) else (k, delta)

/-- The bias after a number, from its size and the number of characters written. -/
def adapt (delta written : Nat) (first : Bool) : Nat :=
  let delta := if first then delta / 700 else delta / 2
  let (k, delta) := settle delta 0 (delta + delta / written)
  k + 36 * delta / (delta + 38)

structure State where
  delta : Nat
  bias : Nat
  written : Nat
  out : List Char

/-- Goes over the label once for the code `c`, and writes a number wherever it stands. -/
def pass (plain c : Nat) (s : State) (x : Nat) : State :=
  if x < c then { s with delta := s.delta + 1 }
  else if x = c then
    { delta := 0
      bias := adapt s.delta (s.written + 1) (s.written = plain)
      written := s.written + 1
      out := s.out ++ digits s.bias (s.delta + 1) 36 s.delta }
  else s

/-- All passes; `before` is the code after that of the last pass. -/
def passes (codes : List Nat) (plain : Nat) : Nat → List Nat → State → State
  | _, [], s => s
  | before, c :: cs, s =>
    let s := { s with delta := s.delta + (c - before) * (s.written + 1) }
    let s := codes.foldl (pass plain c) s
    passes codes plain (c + 1) cs { s with delta := s.delta + 1 }

def encode (label : List Char) : List Char :=
  let plain := label.filter (·.toNat < 128)
  let codes := label.map Char.toNat
  let others := ((codes.filter (128 ≤ ·)).mergeSort (· ≤ ·)).eraseDups
  let lead := if plain.isEmpty then [] else plain ++ ['-']
  (passes codes plain.length 128 others ⟨0, 72, plain.length, lead⟩).out

def digitValue? (c : Char) : Option Nat :=
  if 'a' ≤ c ∧ c ≤ 'z' then some (c.toNat - 97)
  else if '0' ≤ c ∧ c ≤ '9' then some (c.toNat - 22)
  else none

/-- A label while its numbers are read: the characters so far, the code and the place of the last one,
and the number at hand with the weight and the place of its next digit. -/
structure Reading where
  out : List Char
  code : Nat
  before : Nat
  number : Nat
  weight : Nat
  place : Nat
  bias : Nat

/-- Ends a number: it tells how far to go on, over the places of the label and then over the codes. -/
def Reading.insert? (r : Reading) : Option Reading :=
  let length := r.out.length + 1
  let code := r.code + r.number / length
  let spot := r.number % length
  if code < 0xD800 ∨ (0xE000 ≤ code ∧ code < 0x110000) then
    some
      { out := r.out.take spot ++ Char.ofNat code :: r.out.drop spot
        code := code
        before := spot + 1
        number := spot + 1
        weight := 1
        place := 36
        bias := adapt (r.number - r.before) length (r.before = 0) }
  else none

def Reading.step? (r : Reading) (c : Char) : Option Reading :=
  match digitValue? c with
  | none => none
  | some d =>
    let t := threshold r.bias r.place
    let r := { r with number := r.number + d * r.weight }
    if d < t then r.insert?
    else some { r with weight := r.weight * (36 - t), place := r.place + 36 }

def readFrom : Reading → List Char → Option Reading
  | r, [] => some r
  | r, c :: cs => (r.step? c).bind (readFrom · cs)

/-- The label behind an encoded one. The plain characters end at the last dash; a number that is cut
off is a fault. -/
def decode? (cs : List Char) : Option (List Char) :=
  let rest := (cs.reverse.takeWhile (· ≠ '-')).reverse
  let lead := cs.take (cs.length - rest.length - 1)
  let rest := if lead.isEmpty then cs else rest
  match readFrom ⟨lead, 128, 0, 0, 1, 36, 72⟩ rest with
  | some r => if r.place = 36 && r.weight = 1 then some r.out else none
  | none => none

def label (cs : List Char) : List Char :=
  if cs.all (·.toNat < 128) then cs else "xn--".toList ++ encode cs

end MailRound.Web.Punycode
