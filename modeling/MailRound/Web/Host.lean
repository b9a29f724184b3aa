import MailRound.Web.Domain

namespace MailRound.Web

inductive UrlFault where
  | emptyHost
  | domain
  | port
  | ipv4
  | ipv6
  | opaqueHost
  | relative
  deriving DecidableEq, Repr

def UrlFault.message : UrlFault → String
  | .emptyHost => "empty host"
  | .domain => "invalid international domain name"
  | .port => "invalid port number"
  | .ipv4 => "invalid IPv4 address"
  | .ipv6 => "invalid IPv6 address"
  | .opaqueHost => "invalid domain character"
  | .relative => "relative URL without a base"

namespace Host

/-- Characters that the host of an address without a known scheme does not hold. -/
def isReserved (c : Char) : Bool :=
  c.toNat == 0 || [' ', '#', '/', ':', '<', '>', '?', '@', '[', '\\', ']', '^', '|'].contains c

def digitsValue? (base : Nat) (cs : List Char) : Option Nat :=
  cs.foldl (fun acc c =>
    match acc, Text.hexDigitValue? c with
    | some n, some d => if d < base then some (n * base + d) else none
    | _, _ => none) (some 0)

/-- A number of an IPv4 address: hexadecimal after `0x`, octal after `0`, else decimal. -/
def ipv4Number? : List Char → Option Nat
  | [] => none
  | '0' :: 'x' :: cs => digitsValue? 16 cs
  | '0' :: 'X' :: cs => digitsValue? 16 cs
  | '0' :: c :: cs => digitsValue? 8 (c :: cs)
  | cs => digitsValue? 10 cs

def dropLastEmpty (parts : List (List Char)) : List (List Char) :=
  match parts.reverse with
  | [] :: rest => if rest.isEmpty then parts else rest.reverse
  | _ => parts

/-- A host whose last part is a number has to be an IPv4 address. -/
def endsInNumber (parts : List (List Char)) : Bool :=
  match (dropLastEmpty parts).getLast? with
  | none => false
  | some last => (!last.isEmpty && last.all Char.isDigit) || (ipv4Number? last).isSome

def ipv4Text (n : Nat) : String :=
  ".".intercalate [Text.decimal (n / 16777216), Text.decimal (n / 65536 % 256),
    Text.decimal (n / 256 % 256), Text.decimal (n % 256)]

/-- One to four numbers; the last one fills up the bytes that are left. -/
def ipv4 (parts : List (List Char)) : Except UrlFault String :=
  let numbers := (dropLastEmpty parts).map ipv4Number?
  if 4 < numbers.length ∨ numbers.any (·.isNone) then .error .ipv4
  else
    let ns := numbers.filterMap id
    match ns.reverse with
    | [] => .error .ipv4
    | last :: before =>
      let leading := before.reverse
      if leading.any (255 < ·) ∨ Nat.pow 256 (5 - ns.length) ≤ last then .error .ipv4
      else
        let high := leading.foldl (fun acc n => acc * 256 + n) 0
        .ok (ipv4Text (high * Nat.pow 256 (4 - leading.length) + last))

def hextet? (cs : List Char) : Option Nat :=
  if 1 ≤ cs.length ∧ cs.length ≤ 4 then digitsValue? 16 cs else none

/-- A byte of an IPv4 address inside an IPv6 address: no zero stands in front. -/
def byte? (cs : List Char) : Option Nat :=
  if 1 ≤ cs.length ∧ cs.length ≤ 3 ∧ cs.all Char.isDigit ∧ (cs.head? ≠ some '0' ∨ cs.length = 1) then
    (digitsValue? 10 cs).filter (· < 256)
  else none

/-- The groups between colons. At the end of an address the last may be written like an IPv4
address. -/
def groups? (atEnd : Bool) (cs : List Char) : Option (List Nat) :=
  if cs.isEmpty then some []
  else
    let parts := Domain.splitOn ':' cs
    let last := parts.getLast?.getD []
    if atEnd && last.contains '.' then
      match (Domain.splitOn '.' last).map byte? with
      | [some a, some b, some c, some d] =>
        ((parts.dropLast.mapM hextet?)).map (· ++ [a * 256 + b, c * 256 + d])
      | _ => none
    else parts.mapM hextet?

def splitPair : List Char → Option (List Char × List Char)
  | ':' :: ':' :: cs => some ([], cs)
  | c :: cs => (splitPair cs).map fun (before, after) => (c :: before, after)
  | [] => none

def ipv6Groups? (cs : List Char) : Option (List Nat) :=
  match splitPair cs with
  | none => (groups? true cs).filter (·.length == 8)
  | some (before, after) => do
    let high ← groups? false before
    let low ← groups? true after
    if high.length + low.length ≤ 7 then
      return high ++ List.replicate (8 - high.length - low.length) 0 ++ low
    else none

def zeros (gs : List Nat) : Nat := (gs.takeWhile (· == 0)).length

/-- Where the first longest run of two or more zeros begins, and its length. -/
def longestZeros (gs : List Nat) : Option (Nat × Nat) :=
  (List.range gs.length).foldl (fun best i =>
    let n := zeros (gs.drop i)
    if n < 2 then best
    else match best with
      | some (_, m) => if m < n then some (i, n) else best
      | none => some (i, n)) none

def hexText (n : Nat) : String := String.ofList (Nat.toDigits 16 n)

def ipv6Text (gs : List Nat) : String :=
  let join (gs : List Nat) := ":".intercalate (gs.map hexText)
  match longestZeros gs with
  | some (i, n) => "[" ++ join (gs.take i) ++ "::" ++ join (gs.drop (i + n)) ++ "]"
  | none => "[" ++ join gs ++ "]"

def ipv6 (cs : List Char) : Except UrlFault String :=
  match ipv6Groups? cs with
  | some gs => .ok (ipv6Text gs)
  | none => .error .ipv6

def bracketed (cs : List Char) : Except UrlFault String :=
  if cs.getLast? = some ']' then ipv6 cs.dropLast else .error .ipv6

def read (cs : List Char) : Except UrlFault String :=
  match cs with
  | '[' :: rest => bracketed rest
  | cs =>
    match Domain.toAscii? (Text.Utf8.decodeLossy (percentDecode cs)).toList with
    | none => .error .domain
    | some [] => .error .emptyHost
    | some domain =>
      let parts := Domain.splitOn '.' domain
      if endsInNumber parts then ipv4 parts else .ok (String.ofList domain)

/-- Reads the host of an address with any other scheme. -/
def readOpaque (cs : List Char) : Except UrlFault String :=
  match cs with
  | '[' :: rest => bracketed rest
  | cs =>
    if cs.any isReserved then .error .opaqueHost
    else .ok (String.ofList (percentEncode (fun c => isPlain c) cs))

end Host

end MailRound.Web
