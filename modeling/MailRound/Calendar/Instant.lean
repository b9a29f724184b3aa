import MailRound.Calendar.Reading

namespace MailRound.Calendar

/-- A point in time: whole seconds since the beginning of 1970 and a part of a second in
nanoseconds. During a leap second the part is a whole second or more. -/
structure Instant where
  seconds : Int
  nanos : Nat
  deriving DecidableEq, Repr, Inhabited

namespace Instant

def billion : Nat := 1000000000

def daySeconds : Int := 86400

def minSeconds : Int := Date.toDays ⟨Date.minYear, 1, 1⟩ * daySeconds

def maxSeconds : Int := Date.toDays ⟨Date.maxYear, 12, 31⟩ * daySeconds + 86399

/-- The time of day on a date, `offset` seconds ahead of universal time. -/
def ofLocal (d : Date) (hour minute second nanos : Nat) (offset : Int) : Except Fault Instant :=
  let leap := second = 60
  let s : Int := hour * 3600 + minute * 60 + (if leap then 59 else second)
  let seconds := d.toDays * daySeconds + s - offset
  if minSeconds ≤ seconds ∧ seconds ≤ maxSeconds then
    .ok ⟨seconds, if leap then billion + nanos else nanos⟩
  else .error .impossible

/-- Three, six or nine digits, as many as are needed. -/
def fractionText (nanos : Nat) : String :=
  if nanos = 0 then ""
  else if nanos % 1000000 = 0 then "." ++ Text.padded 3 (nanos / 1000000)
  else if nanos % 1000 = 0 then "." ++ Text.padded 6 (nanos / 1000)
  else "." ++ Text.padded 9 nanos

def text (t : Instant) : String :=
  let days := t.seconds.fdiv daySeconds
  let rest := (t.seconds - days * daySeconds).toNat
  (Date.ofDays days).isoText ++ "T" ++ Text.padded 2 (rest / 3600) ++ ":" ++
    Text.padded 2 (rest / 60 % 60) ++ ":" ++
    Text.padded 2 (rest % 60 + t.nanos / billion) ++ fractionText (t.nanos % billion) ++ "Z"

/-- Up to nine digits of a fraction count; more are passed over. -/
def fraction : Step Nat
  | '.' :: cs =>
    match number 9 cs with
    | .error e => .error e
    | .ok (n, rest) =>
      .ok (n * Nat.pow 10 (9 - (cs.length - rest.length)), rest.dropWhile fun c => '0' ≤ c && c ≤ '9')
  | cs => .ok (0, cs)

def twoDigits (highest : Char) : Step Nat
  | a :: b :: rest =>
    match Text.digitValue? a, Text.digitValue? b with
    | some x, some y => if a ≤ highest then .ok (x * 10 + y, rest) else .error .outOfRange
    | _, _ => .error .invalid
  | [a] => if 1 < a.utf8Size then .error .invalid else .error .tooShort
  | [] => .error .tooShort

def signed (negative : Bool) (cs : List Char) : Except Fault (Int × List Char) :=
  match twoDigits '9' cs with
  | .error e => .error e
  | .ok (hours, cs) =>
    match twoDigits '5' (cs.dropWhile fun c => c == ':' || Text.isBlank c) with
    | .error e => .error e
    | .ok (minutes, cs) =>
      let s : Int := hours * 3600 + minutes * 60
      .ok (if negative then -s else s, cs)

def offset : Step Int
  | [] => .error .tooShort
  | c :: rest =>
    let word := String.ofList (((c :: rest).take 3).map Char.toUpper)
    if word = "UTC" then .ok (0, rest.drop 2)
    else if c = 'Z' ∨ c = 'z' then .ok (0, rest)
    else if c = '+' then signed false rest
    else if c = '-' ∨ c.toNat = 0x2212 then signed true rest
    else .error .invalid

def separator : Step Unit
  | [] => .error .tooShort
  | c :: rest => if c = 'T' ∨ c = 't' ∨ c = ' ' then .ok ((), rest) else .error .invalid

/-- Reads a date and a time with its offset. White space may stand before every number and mark
and at the end, numbers may be short, and the colon of the offset may be left out. -/
def read (s : String) : Except Fault Instant :=
  match anyYear s.toList with
  | .error e => .error e
  | .ok (y, cs) => match mark '-' (Text.trimStart cs) with
    | .error e => .error e
    | .ok ((), cs) => match bounded 1 12 cs with
      | .error e => .error e
      | .ok (month, cs) => match mark '-' (Text.trimStart cs) with
        | .error e => .error e
        | .ok ((), cs) => match bounded 1 31 cs with
          | .error e => .error e
          | .ok (day, cs) => match separator cs with
            | .error e => .error e
            | .ok ((), cs) => match time cs with
              | .error e => .error e
              | .ok ((hour, minute, second, nanos), cs) =>
                match offset (Text.trimStart cs) with
                | .error e => .error e
                | .ok (off, cs) =>
                  if Text.trimStart cs ≠ [] then .error .tooLong
                  else if ¬ Date.Valid ⟨y, month, day⟩ then .error .outOfRange
                  else if daySeconds ≤ off ∨ off ≤ -daySeconds then .error .outOfRange
                  else ofLocal ⟨y, month, day⟩ hour minute second nanos off
where
  time (cs : List Char) : Except Fault ((Nat × Nat × Nat × Nat) × List Char) :=
    match bounded 0 23 cs with
    | .error e => .error e
    | .ok (hour, cs) => match mark ':' (Text.trimStart cs) with
      | .error e => .error e
      | .ok ((), cs) => match bounded 0 59 cs with
        | .error e => .error e
        | .ok (minute, cs) => match mark ':' (Text.trimStart cs) with
          | .error e => .error e
          | .ok ((), cs) => match bounded 0 60 cs with
            | .error e => .error e
            | .ok (second, cs) => match fraction cs with
              | .error e => .error e
              | .ok (nanos, cs) => .ok ((hour, minute, second, nanos), cs)

end Instant

end MailRound.Calendar
