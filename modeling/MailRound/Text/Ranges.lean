namespace MailRound.Text

/-- The numbers of a line: digits between blanks. `read` is the number at hand. -/
def numbersFrom : (read : Option Nat) → List Char → List Nat
  | none, [] => []
  | some n, [] => [n]
  | read, c :: cs =>
    if c.isDigit then numbersFrom (some (read.getD 0 * 10 + (c.toNat - 48))) cs
    else read.toList ++ numbersFrom none cs

def numbers (lines : List String) : List Nat := lines.flatMap fun line => numbersFrom none line.toList

/-- Closed ranges of code points, from `next` on, out of lengths: so many code points lie outside, so
many inside, and so on in turn. -/
def rangesFrom (next : Nat) : List Nat → List (Nat × Nat)
  | outside :: inside :: rest =>
    (next + outside, next + outside + inside - 1) :: rangesFrom (next + outside + inside) rest
  | _ => []

def ranges (lines : List String) : List (Nat × Nat) := rangesFrom 0 (numbers lines)

def inRanges (table : List (Nat × Nat)) (c : Char) : Bool :=
  table.any fun r => r.1 ≤ c.toNat && c.toNat ≤ r.2

/-- The code points `first`, `first + stride`, … of which there are `count` go over into `target`,
`target + stride`, … -/
structure Run where
  first : Nat
  count : Nat
  stride : Nat
  target : Nat
  deriving DecidableEq, Repr

def Run.image? (r : Run) (n : Nat) : Option Nat :=
  if r.first ≤ n ∧ n < r.first + r.count * r.stride ∧ (n - r.first) % r.stride = 0 then
    some (r.target + (n - r.first))
  else none

def runsFrom (last : Nat) : List Nat → List Run
  | step :: count :: stride :: target :: rest =>
    ⟨last + step, count, stride, target⟩ :: runsFrom (last + step) rest
  | _ => []

def runs (lines : List String) : List Run := runsFrom 0 (numbers lines)

def image? (table : List Run) (c : Char) : Option Char :=
  (table.findSome? (·.image? c.toNat)).map Char.ofNat

end MailRound.Text
