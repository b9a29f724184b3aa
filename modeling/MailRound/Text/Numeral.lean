namespace MailRound.Text

inductive NumeralFault where
  | empty
  | digit
  | overflow
  | underflow
  deriving DecidableEq, Repr

def NumeralFault.message : NumeralFault → String
  | .empty => "cannot parse integer from empty string"
  | .digit => "invalid digit found in string"
  | .overflow => "number too large to fit in target type"
  | .underflow => "number too small to fit in target type"

def limit32 : Nat := 4294967296

def limit63 : Nat := 9223372036854775808

def limit64 : Nat := 18446744073709551616

def digitValue? (c : Char) : Option Nat :=
  if '0' ≤ c ∧ c ≤ '9' then some (c.toNat - 48) else none

/-- Reads digits from left to right; the first digit that is none, or that takes the value to
`bound` or above, decides the fault. -/
def readDigits (bound : Nat) : Nat → List Char → Except NumeralFault Nat
  | acc, [] => .ok acc
  | acc, c :: cs =>
    match digitValue? c with
    | none => .error .digit
    | some d => if acc * 10 + d < bound then readDigits bound (acc * 10 + d) cs else .error .overflow

/-- An unsigned number below `bound`: an optional plus sign and at least one decimal digit. -/
def readUnsigned (bound : Nat) (cs : List Char) : Except NumeralFault Nat :=
  match cs with
  | [] => .error .empty
  | ['+'] => .error .digit
  | '+' :: ds => readDigits bound 0 ds
  | ds => readDigits bound 0 ds

/-- A number from `-bound` to `bound - 1`, with an optional sign. -/
def readSigned (bound : Nat) (cs : List Char) : Except NumeralFault Int :=
  match cs with
  | ['-'] => .error .digit
  | '-' :: ds =>
    match readDigits (bound + 1) 0 ds with
    | .ok n => .ok (-(n : Int))
    | .error .overflow => .error .underflow
    | .error fault => .error fault
  | ds => (readUnsigned bound ds).map Int.ofNat

/-- `n` in decimal with at least `width` digits. -/
def padded (width n : Nat) : String :=
  let ds := Nat.toDigits 10 n
  String.ofList (List.replicate (width - ds.length) '0' ++ ds)

def decimal (n : Nat) : String :=
  String.ofList (Nat.toDigits 10 n)

def decimalInt (n : Int) : String :=
  if n < 0 then "-" ++ decimal n.natAbs else decimal n.natAbs

def hexDigitValue? (c : Char) : Option Nat :=
  if '0' ≤ c ∧ c ≤ '9' then some (c.toNat - 48)
  else if 'a' ≤ c ∧ c ≤ 'f' then some (c.toNat - 87)
  else if 'A' ≤ c ∧ c ≤ 'F' then some (c.toNat - 55)
  else none

end MailRound.Text
