import MailRound.Text.Utf8

namespace MailRound.Text.Terminal

inductive State where
  | text
  | escape
  | intermediate
  /-- Inside a control sequence, up to the letter that ends it. -/
  | control
  /-- Before the letter that begins the string of a device. -/
  | device
  /-- Inside a string that a bell ends. -/
  | title
  /-- Inside a string that only its terminator ends. -/
  | string
  deriving DecidableEq, Repr

/-- Line ends, form feeds and tabs, which a terminal lays out wherever they stand. -/
def isLayout (c : Char) : Bool := c == '\t' || c == '\n' || c == '\r' || c == '\x0c'

def isFinal (c : Char) : Bool := '0' ≤ c && c ≤ '~'

def afterEscape (c : Char) : State :=
  if ' ' ≤ c && c ≤ '/' then .intermediate
  else if c = '[' then .control
  else if c = ']' then .title
  else if c = 'P' then .device
  else if c = 'X' ∨ c = '^' ∨ c = '_' then .string
  else if isFinal c then .text
  else .escape

/-- The one byte that ends a string by itself, also as a later byte of a character. -/
def endsString (c : Char) : Bool := (Utf8.encode (String.singleton c)).contains 0x9C

def step (s : State) (c : Char) : State × Bool :=
  if c = '\x1b' then (.escape, false)
  else if c = '\x18' ∨ c = '\x1a' then (.text, false)
  else match s with
    | .text => (.text, isLayout c || (' ' ≤ c && c ≠ '\x7f'))
    | .escape => if isLayout c then (.text, true) else (afterEscape c, false)
    | .intermediate =>
      if isLayout c then (.text, true) else (if isFinal c then .text else .intermediate, false)
    | .control =>
      if isLayout c then (.text, true)
      else (if '@' ≤ c && c ≤ '~' then .text else .control, false)
    | .device => (if c = ':' || ('@' ≤ c && c ≤ '~') then .string else .device, false)
    | .title => (if c = '\x07' then .text else .title, false)
    | .string => (if endsString c then .text else .string, false)

def seen (s : State) : List Char → List Char
  | [] => []
  | c :: cs =>
    let (s, visible) := step s c
    if visible then c :: seen s cs else seen s cs

def strip (text : String) : String := String.ofList (seen .text text.toList)

/-- A character that a terminal may act on, by its number; any other as it is. -/
def spellChar (c : Char) : List Char :=
  let n := c.toNat
  let digits := Nat.toDigits 16 n
  if n = 0x07 ∨ n = 0x08 ∨ n = 0x0C ∨ n = 0x1B ∨ n = 0x7F then
    '\\' :: 'x' :: (if n < 16 then '0' :: digits else digits)
  else if 0x80 ≤ n ∧ n ≤ 0x9F then
    '\\' :: 'u' :: '\x7b' :: digits ++ ['\x7d']
  else [c]

/-- A text in which the characters that begin escape sequences, move the cursor or ring a bell are
spelt out. -/
def spell (text : String) : String := String.ofList (text.toList.flatMap spellChar)

end MailRound.Text.Terminal
