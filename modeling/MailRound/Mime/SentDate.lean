import MailRound.Calendar.Instant
import MailRound.Text.Utf8

namespace MailRound.Mime

/-- A number of a date with the places that are still free in it: digits are filled in from the
left. -/
structure Figure where
  value : Nat
  free : Nat
  deriving DecidableEq, Repr

def Figure.push (f : Figure) (digit : Nat) : Figure :=
  match f.free with
  | 0 => f
  | free + 1 => ⟨f.value + digit * Nat.pow 10 free, free⟩

/-- The value is that of the digits read; free places do not count. -/
def Figure.close (f : Figure) : Figure := { f with value := f.value / Nat.pow 10 f.free }

/-- The date of a message while it is read. Its figures are day, month, year, hour, minute, second
and zone; `place` tells which one is next. `fresh` holds before the first letter or digit of a
word, `waiting` before the first digit of all. A zone name takes `owed` more bytes. -/
structure SentDate where
  place : Nat
  figures : List Figure
  letters : Nat
  monthKey : Nat
  west : Bool
  fresh : Bool
  waiting : Bool
  depth : Nat
  zoneName : List Char
  owed : Nat
  deriving DecidableEq, Repr

namespace SentDate

def start : SentDate :=
  ⟨0, [⟨0, 2⟩, ⟨0, 2⟩, ⟨0, 4⟩, ⟨0, 2⟩, ⟨0, 2⟩, ⟨0, 2⟩, ⟨0, 4⟩], 0, 0, false, true, true, 0, [], 0⟩

def figure (s : SentDate) (i : Nat) : Nat := ((s.figures.getD i ⟨0, 0⟩)).value

def divide (s : SentDate) : SentDate :=
  if s.fresh || s.waiting then s
  else { s with
    figures := s.figures.modify s.place Figure.close
    place := s.place + 1
    fresh := true }

def digit (s : SentDate) (d : Nat) : SentDate :=
  { s with
    figures := s.figures.modify s.place (·.push d)
    waiting := s.waiting && ((s.figures.getD s.place ⟨0, 0⟩).free == 0)
    fresh := false }

/-- The weight of a letter in the name of a month: the sum of the weights of the second and the
third letter tells the twelve names apart. -/
def monthWeight (c : Char) : Nat :=
  match c.toLower with
  | 'a' | 't' | 'y' => 0
  | 'c' | 'l' => 4
  | 'r' | 'u' => 5
  | 'e' | 'n' => 10
  | 'b' | 'g' => 14
  | 'o' | 'p' | 'v' => 15
  | _ => 31

/-- The month behind a sum of weights; zero if there is none. -/
def monthOfKey : Nat → Nat
  | 0 => 5
  | 4 => 10
  | 5 => 3
  | 9 => 7
  | 10 => 1
  | 14 => 12
  | 15 => 6
  | 19 => 8
  | 20 => 4
  | 24 => 2
  | 25 => 9
  | 30 => 11
  | _ => 0

def letter (s : SentDate) (c : Char) : SentDate :=
  let s := { s with fresh := false }
  if s.place = 1 then
    let weight := if s.letters = 1 ∨ s.letters = 2 then monthWeight c else 0
    { s with letters := s.letters + 1, monthKey := s.monthKey + weight }
  else if s.place = 6 then { s with zoneName := [c], owed := 2 }
  else s

/-- Hours behind universal time of a zone that is given by name. -/
def hoursWest (name : String) : Nat :=
  match name with
  | "EDT" => 4
  | "EST" | "CDT" => 5
  | "CST" | "MDT" => 6
  | "MST" | "PDT" => 7
  | "PST" => 8
  | _ => 0

/-- A zone name has three bytes, whatever they are; an unknown one is universal time. -/
def zoneByte (s : SentDate) (c : Char) : SentDate :=
  let name := s.zoneName ++ [c]
  if s.owed = 1 then
    let hours := hoursWest (String.ofList (name.map Char.toUpper))
    { s with
      figures := s.figures.set 6 ⟨hours * 100, 0⟩
      west := s.west || 0 < hours
      place := 7
      zoneName := []
      owed := 0 }
  else { s with zoneName := name, owed := s.owed - 1 }

/-- A sign opens the zone, but not inside a word before the time of day. -/
def admitsZone (s : SentDate) : Bool := s.fresh || 3 ≤ s.place

/-- Comments are passed over. A colon divides only hours, minutes and seconds. -/
def step (s : SentDate) (b : UInt8) : SentDate :=
  let c := Char.ofUInt8 b
  if 0 < s.owed then s.zoneByte c
  else if 0 < s.depth then
    match c with
    | '(' => { s with depth := s.depth + 1 }
    | ')' => { s with depth := s.depth - 1 }
    | _ => s
  else
    match c with
    | '(' => { s with depth := 1 }
    | ' ' | '\t' | '\n' => s.divide
    | ':' => if s.place = 3 ∨ s.place = 4 then s.divide else s
    | '+' => if s.admitsZone then { s with place := 6 } else s
    | '-' => if s.admitsZone then { s with place := 6, west := true } else s
    | _ =>
      match Text.digitValue? c with
      | some d => s.digit d
      | none => if c.isAlpha then s.letter c else s

/-- Years of two digits lie between 1950 and 2049. -/
def fullYear (n : Nat) : Nat :=
  if n = 0 then 0 else if n < 50 then n + 2000 else if n < 100 then n + 1900 else n

def month (s : SentDate) : Nat :=
  if s.letters = 3 ∧ s.monthKey ≤ 30 then monthOfKey s.monthKey else s.figure 1

/-- Days since the beginning of 1970. Months are counted from March, so that a leap day comes last,
and go on past the twelfth at their mean length. -/
def days (year month day : Nat) : Int :=
  let early := month < 3
  let m := if early then month + 9 else month - 3
  let y := year + 4800 - (if early then 1 else 0)
  let before := y * 365 + y / 4 - y / 100 + y / 400 + (m * 62719 + 769) / 2048
  (before + day : Nat) - 2472633

/-- The date, if the reading came as far as the zone. Days, hours, minutes and seconds past their
range go over into the next month, day, hour and minute; the hours and minutes of a zone do not. -/
def instant? (s : SentDate) : Option Calendar.Instant :=
  if 6 ≤ s.place then
    let day := days (fullYear (s.figure 2)) s.month (s.figure 0)
    let time := s.figure 3 * 3600 + s.figure 4 * 60 + s.figure 5
    let zone := s.figure 6 / 100 % 24 * 3600 + s.figure 6 % 100 % 60 * 60
    let offset : Int := if s.west then zone else -zone
    some ⟨day * Calendar.Instant.daySeconds + time + offset, 0⟩
  else none

def read? (value : Bytes) : Option Calendar.Instant := (value.foldl step start).instant?

end SentDate

end MailRound.Mime
