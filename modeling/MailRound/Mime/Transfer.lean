import MailRound.Text.Base64

namespace MailRound.Mime

inductive Transfer where
  | plain
  | base64
  | quotedPrintable
  deriving DecidableEq, Repr

def dropLineEnd (bs : Bytes) : Bytes :=
  match bs.reverse with
  | 10 :: 13 :: rest => rest.reverse
  | 10 :: rest => rest.reverse
  | _ => bs

namespace Transfer

def ofName (name : String) : Transfer :=
  match String.ofList (name.toList.map Char.toLower) with
  | "base64" => .base64
  | "quoted-printable" => .quotedPrintable
  | _ => .plain

def isBlankByte (b : UInt8) : Bool :=
  b == 32 || b == 9 || b == 10 || b == 12 || b == 13

/-- The whole bytes that up to four groups of six bits hold. -/
def quantum : List Nat → Bytes
  | [v] => [UInt8.ofNat (v * 4)]
  | [v, w] => [UInt8.ofNat (v * 4 + w / 16)]
  | [v, w, x] => [UInt8.ofNat (v * 4 + w / 16), UInt8.ofNat (w % 16 * 16 + x / 4)]
  | [v, w, x, y] =>
    [UInt8.ofNat (v * 4 + w / 16), UInt8.ofNat (w % 16 * 16 + x / 4), UInt8.ofNat (x % 4 * 64 + y)]
  | _ => []

/-- Base64 as mail carries it: blanks and single dashes are passed over, padding ends a quantum and
more may follow, and a quantum that is not ended is dropped. `dash` tells that the byte before was
a dash. -/
def base64From : (pending : List Nat) → (dash : Bool) → Bytes → Option Bytes
  | _, _, [] => some []
  | pending, dash, b :: bs =>
    match Text.Base64.standard.value? b with
    | some v =>
      if pending.length = 3 then (base64From [] false bs).map (quantum (pending ++ [v]) ++ ·)
      else base64From (pending ++ [v]) false bs
    | none =>
      if b = 61 then
        (base64From [] false bs).map ((if pending.isEmpty then [] else quantum pending) ++ ·)
      else if isBlankByte b then base64From pending false bs
      else if b = 45 && !dash then base64From pending true bs
      else none

def base64? (bs : Bytes) : Option Bytes := base64From [] false bs

/-- Inside a line, after nothing special, after an equals sign, or after its first digit. -/
inductive Escape where
  | none
  | opened
  | half (value : Nat)
  deriving DecidableEq, Repr

/-- Quoted-printable text while it is read. `blanks` counts the blanks that end the output, which
is held backwards, and `last` is the byte before. -/
structure Quoted where
  escape : Escape
  blanks : Nat
  last : UInt8
  lineEnd : Bytes
  out : Bytes
  deriving DecidableEq, Repr

namespace Quoted

def start : Quoted := ⟨.none, 0, 10, [10], []⟩

/-- Ends the line; blanks before a line end do not count. An equals sign before it joins the lines.
All line ends are written alike, with a carriage return once one was seen. -/
def newline (s : Quoted) : Quoted :=
  if s.escape = .opened then { s with escape := .none, blanks := 0 }
  else { s with out := s.lineEnd.reverse ++ s.out.drop s.blanks, blanks := 0 }

def put (s : Quoted) (bs : Bytes) : Quoted :=
  { s with escape := .none, blanks := 0, out := bs.reverse ++ s.out }

/-- What is no escape stays as it is; an equals sign within an escape is a fault. -/
def step (s : Quoted) (b : UInt8) : Option Quoted :=
  let hex := Text.hexDigitValue? (Char.ofUInt8 b)
  let next : Option Quoted :=
    if b = 61 then if s.escape = .none then some { s with escape := .opened } else none
    else if b = 10 then some s.newline
    else if b = 13 then some { s with lineEnd := [13, 10] }
    else
      match s.escape, hex with
      | .none, _ =>
        some { s with out := b :: s.out, blanks := if isBlankByte b then s.blanks + 1 else 0 }
      | .opened, some v => some { s with escape := .half v }
      | .opened, none => some (if isBlankByte b then s else s.put [61, b])
      | .half v, some w => some (s.put [UInt8.ofNat (v * 16 + w)])
      | .half _, none => some (s.put [61, s.last, b])
  next.map fun s => { s with last := b }

def readFrom : Quoted → Bytes → Option Quoted
  | s, [] => some s
  | s, b :: bs => (s.step b).bind (readFrom · bs)

end Quoted

/-- A boundary is found by its second dash, so the first is read as text and taken back, and with
it the line end before it. -/
def unquote? (bounded : Bool) (bs : Bytes) : Option Bytes := do
  let s ← Quoted.start.readFrom bs
  if bounded then
    let dashed ← s.step 45
    let surplus := if s.last = 10 then 1 + s.lineEnd.length else 1
    return (dashed.out.drop surplus).reverse
  else return s.out.reverse

/-- The bytes behind `bs`; none if they are not well written. `bounded` tells that a boundary
follows, to which a line end at the end belongs. -/
def decode? (bounded : Bool) : Transfer → Bytes → Option Bytes
  | .plain, bs => some (if bounded then dropLineEnd bs else bs)
  | .base64, bs =>
    if bounded && bs.getLast? == some 45 then none else base64? bs
  | .quotedPrintable, bs => unquote? bounded bs

end Transfer

end MailRound.Mime
