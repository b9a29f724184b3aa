import MailRound.Calendar.Date
import MailRound.Calendar.Fault
import MailRound.Text.Blank

namespace MailRound.Calendar

/-- A text being read: a value with what is left of the text, or why there is none. -/
abbrev Step (α : Type) := List Char → Except Fault (α × List Char)

def wordLimit : Nat := 9223372036854775808

def takeDigits : Nat → Nat → List Char → Except Fault (Nat × List Char)
  | 0, acc, cs => .ok (acc, cs)
  | _ + 1, acc, [] => .ok (acc, [])
  | width + 1, acc, c :: cs =>
    match Text.digitValue? c with
    | none => .ok (acc, c :: cs)
    | some d =>
      if acc * 10 + d < wordLimit then takeDigits width (acc * 10 + d) cs else .error .outOfRange

def number (width : Nat) : Step Nat
  | [] => .error .tooShort
  | c :: cs =>
    match Text.digitValue? c with
    | none => .error .invalid
    | some _ => takeDigits width 0 (c :: cs)

def bounded (low high : Nat) : Step Nat := fun cs =>
  match number 2 (Text.trimStart cs) with
  | .error e => .error e
  | .ok (n, rest) => if low ≤ n ∧ n ≤ high then .ok (n, rest) else .error .outOfRange

def yearLimit : Nat := 2147483648

/-- A year of at most four digits, or of any length after a sign. -/
def anyYear : Step Int := fun cs =>
  match Text.trimStart cs with
  | '-' :: rest => match number rest.length rest with
    | .error e => .error e
    | .ok (n, rest) => if n ≤ yearLimit then .ok (-(n : Int), rest) else .error .outOfRange
  | '+' :: rest => match number rest.length rest with
    | .error e => .error e
    | .ok (n, rest) => if n < yearLimit then .ok (n, rest) else .error .outOfRange
  | rest => match number 4 rest with
    | .error e => .error e
    | .ok (n, rest) => .ok (n, rest)

def mark (c : Char) : Step Unit
  | [] => .error .tooShort
  | d :: rest => if d = c then .ok ((), rest) else .error .invalid

def Date.read (text : String) : Except Fault Date :=
  match anyYear text.toList with
  | .error e => .error e
  | .ok (y, cs) => match mark '-' cs with
    | .error e => .error e
    | .ok ((), cs) => match bounded 1 12 cs with
      | .error e => .error e
      | .ok (m, cs) => match mark '-' cs with
        | .error e => .error e
        | .ok ((), cs) => match bounded 1 31 cs with
          | .error e => .error e
          | .ok (d, cs) =>
            if cs ≠ [] then .error .tooLong
            else if Date.Valid ⟨y, m, d⟩ then .ok ⟨y, m, d⟩
            else .error .outOfRange

end MailRound.Calendar
