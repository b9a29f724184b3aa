import MailRound.Json.Node

namespace MailRound.Json

def isSpace (c : Char) : Bool :=
  c == ' ' || c == '\n' || c == '\t' || c == '\r'

def skipSpace (cs : List Char) : List Char :=
  cs.dropWhile isSpace

/-- One character of a string, or a code unit written as four hexadecimal digits. -/
inductive StringPiece where
  | char (c : Char)
  | unit (n : Nat)
  deriving DecidableEq, Repr

inductive StringEnd where
  | closed (rest : List Char)
  | eof
  | control
  | badEscape
  | badHex
  deriving DecidableEq, Repr

def StringEnd.fault : StringEnd → Option Fault
  | .closed _ => none
  | .eof => some .eofString
  | .control => some .controlCharacter
  | .badEscape => some .invalidEscape
  | .badHex => some .invalidEscape

def hexUnit? (a b c d : Char) : Option Nat :=
  match Text.hexDigitValue? a, Text.hexDigitValue? b, Text.hexDigitValue? c,
      Text.hexDigitValue? d with
  | some a, some b, some c, some d => some (((a * 16 + b) * 16 + c) * 16 + d)
  | _, _, _, _ => none

/-- A hexadecimal escape needs four more bytes, whatever they are, before its digits are looked
at. -/
def hexShortage (cs : List Char) : StringEnd :=
  if (cs.take 4).foldl (fun n c => n + c.utf8Size) 0 < 4 then .eof else .badHex

def simpleEscape? : Char → Option Char
  | '"' => some '"'
  | '\\' => some '\\'
  | '/' => some '/'
  | 'b' => some '\x08'
  | 'f' => some '\x0c'
  | 'n' => some '\n'
  | 'r' => some '\r'
  | 't' => some '\t'
  | _ => none

/-- Splits the text after an opening quote into the pieces of the string and its end. -/
def stringPieces : List Char → List StringPiece × StringEnd
  | [] => ([], .eof)
  | '"' :: rest => ([], .closed rest)
  | ['\\'] => ([], .eof)
  | '\\' :: 'u' :: a :: b :: c :: d :: rest =>
    match hexUnit? a b c d with
    | some n =>
      let (ps, e) := stringPieces rest
      (.unit n :: ps, e)
    | none => ([], hexShortage [a, b, c, d])
  | '\\' :: e :: rest =>
    if e = 'u' then ([], hexShortage rest)
    else
      match simpleEscape? e with
      | some c =>
        let (ps, e) := stringPieces rest
        (.char c :: ps, e)
      | none => ([], .badEscape)
  | c :: rest =>
    if c.toNat < 0x20 then ([], .control)
    else
      let (ps, e) := stringPieces rest
      (.char c :: ps, e)

/-- What is said when a string ends after the first half of a surrogate pair. -/
def halfPairFault : StringEnd → Fault
  | .eof => .eofString
  | .badHex => .invalidEscape
  | _ => .hexEscapeEnd

/-- Decodes the pieces of a string; the two halves of a surrogate pair make one character. -/
def decodePieces (last : StringEnd) : List StringPiece → Except Fault (List Char)
  | [] => match last.fault with
    | some fault => .error fault
    | none => .ok []
  | .char c :: ps => (decodePieces last ps).map (c :: ·)
  | [.unit n] =>
    if 0xDC00 ≤ n ∧ n ≤ 0xDFFF then .error .loneSurrogate
    else if 0xD800 ≤ n ∧ n ≤ 0xDBFF then .error (halfPairFault last)
    else match last.fault with
      | some fault => .error fault
      | none => .ok [Char.ofNat n]
  | .unit n :: .unit m :: ps =>
    if 0xDC00 ≤ n ∧ n ≤ 0xDFFF then .error .loneSurrogate
    else if 0xD800 ≤ n ∧ n ≤ 0xDBFF then
      if 0xDC00 ≤ m ∧ m ≤ 0xDFFF then
        let c := Char.ofNat ((n - 0xD800) * 0x400 + (m - 0xDC00) + 0x10000)
        (decodePieces last ps).map (c :: ·)
      else .error .loneSurrogate
    else (decodePieces last (.unit m :: ps)).map (Char.ofNat n :: ·)
  | .unit n :: .char d :: ps =>
    if 0xDC00 ≤ n ∧ n ≤ 0xDFFF then .error .loneSurrogate
    else if 0xD800 ≤ n ∧ n ≤ 0xDBFF then .error .hexEscapeEnd
    else (decodePieces last ps).map (Char.ofNat n :: d :: ·)

/-- The string after an opening quote, and what follows it. -/
def scanString (cs : List Char) : Quoted × Option (List Char) :=
  let (ps, last) := stringPieces cs
  let rest := match last with
    | .closed rest => some rest
    | _ => none
  (⟨(decodePieces last ps).map String.ofList, last.fault⟩, rest)

def wordBound : Nat := Text.limit64

/-- Takes digits into a significand while it fits in a word; gives the significand, how many
digits were taken and how many were left over. -/
def takeSignificand : Nat → List Char → Nat × Nat × Nat
  | acc, [] => (acc, 0, 0)
  | acc, c :: cs =>
    let next := acc * 10 + (c.toNat - 48)
    if next < wordBound then
      let (s, taken, left) := takeSignificand next cs
      (s, taken + 1, left)
    else (acc, 0, cs.length + 1)

/-- The lexical parts of a number: its digits before and after the point and its exponent. -/
structure Numeral where
  negative : Bool
  whole : List Char
  fraction : Option (List Char)
  exponent : Option (Bool × List Char)
  deriving DecidableEq, Repr

def Numeral.exponentValue (n : Numeral) : Int :=
  match n.exponent with
  | none => 0
  | some (down, digits) =>
    let e : Int := digits.foldl (fun acc c => acc * 10 + (c.toNat - 48)) 0
    if down then -e else e

/-- Whole numbers of 64 bits stay whole; a negative zero and all others become doubles. -/
def Numeral.value (n : Numeral) : Except Fault Number :=
  let (s, _, left) := takeSignificand 0 n.whole
  let float (significand : Nat) (e : Int) : Except Fault Number :=
    match Double.ofParts? n.negative significand e with
    | some bits => .ok (.float bits)
    | none => .error .numberOutOfRange
  match n.fraction, n.exponent with
  | none, none =>
    if left = 0 then
      if n.negative then
        if s = 0 ∨ Text.limit63 < s then float s 0 else .ok (.int (-(s : Int)))
      else .ok (.int s)
    else float s left
  | none, some _ => float s (left + n.exponentValue)
  | some digits, _ =>
    let (s', taken, _) := takeSignificand s digits
    float s' (left - taken + n.exponentValue)

def isDigit (c : Char) : Bool := '0' ≤ c && c ≤ '9'

/-- The fault where a digit is missing: the text ends, or goes on with something else. -/
def digitFault : List Char → Fault
  | [] => .eofValue
  | _ => .invalidNumber

def scanExponent (negative : Bool) (whole : List Char) (fraction : Option (List Char))
    (cs : List Char) : Except Fault Number × List Char :=
  match cs with
  | c :: rest =>
    if c = 'e' ∨ c = 'E' then
      let (down, rest) := match rest with
        | '+' :: r => (false, r)
        | '-' :: r => (true, r)
        | r => (false, r)
      let digits := rest.takeWhile isDigit
      if digits.isEmpty then (.error (digitFault rest), rest)
      else ((Numeral.mk negative whole fraction (some (down, digits))).value, rest.dropWhile isDigit)
    else ((Numeral.mk negative whole fraction none).value, cs)
  | [] => ((Numeral.mk negative whole fraction none).value, [])

/-- The number at the head of the text, after its sign. -/
def scanNumber (negative : Bool) (cs : List Char) : Except Fault Number × List Char :=
  match cs with
  | '0' :: rest =>
    if (rest.head?.map isDigit).getD false then (.error .invalidNumber, rest) else after ['0'] rest
  | c :: _ =>
    if isDigit c then after (cs.takeWhile isDigit) (cs.dropWhile isDigit)
    else (.error .invalidNumber, cs)
  | [] => (.error .eofValue, [])
where
  after (whole rest : List Char) : Except Fault Number × List Char :=
    match rest with
    | '.' :: r =>
      let digits := r.takeWhile isDigit
      if digits.isEmpty then (.error (digitFault r), r)
      else scanExponent negative whole (some digits) (r.dropWhile isDigit)
    | r => scanExponent negative whole none r

/-- A number that cannot be scanned ends the document; one that is too large does not. -/
def numberNode (negative : Bool) (cs : List Char) : Node × Option (List Char) :=
  match scanNumber negative cs with
  | (.ok n, rest) => (.number (.ok n), some rest)
  | (.error .numberOutOfRange, rest) => (.number (.error .numberOutOfRange), some rest)
  | (.error e, _) => (.number (.error e), none)

def scanWord (word : List Char) (node : Node) : List Char → Node × Option (List Char)
  | cs => match word, cs with
    | [], rest => (node, some rest)
    | _ :: _, [] => (.misspelt .eofValue, none)
    | w :: ws, c :: rest => if w = c then scanWord ws node rest else (.misspelt .expectedIdent, none)

mutual

/-- The value at the head of the text, and what follows it unless the document ends inside. -/
def scanValue : Nat → List Char → Node × Option (List Char)
  | 0, _ => (.broken .eofValue, none)
  | fuel + 1, cs =>
    match skipSpace cs with
    | [] => (.broken .eofValue, none)
    | 'n' :: rest => scanWord ['u', 'l', 'l'] .null rest
    | 't' :: rest => scanWord ['r', 'u', 'e'] (.bool true) rest
    | 'f' :: rest => scanWord ['a', 'l', 's', 'e'] (.bool false) rest
    | '"' :: rest =>
      let (token, rest) := scanString rest
      (.string token, rest)
    | '[' :: rest => scanItems fuel true [] rest
    | '\x7b' :: rest => scanMembers fuel true [] rest
    | '-' :: rest => numberNode true rest
    | c :: rest => if isDigit c then numberNode false (c :: rest) else (.broken .expectedValue, none)

def scanItems : Nat → Bool → List Node → List Char → Node × Option (List Char)
  | 0, _, items, _ => (.array items.reverse (some .eofList), none)
  | fuel + 1, first, items, cs =>
    match skipSpace cs with
    | [] => (.array items.reverse (some .eofList), none)
    | ']' :: rest => (.array items.reverse none, some rest)
    | c :: rest =>
      if first then scanItem fuel items (c :: rest)
      else if c = ',' then
        match skipSpace rest with
        | [] => (.array items.reverse (some .eofValue), none)
        | ']' :: _ => (.array items.reverse (some .trailingComma), none)
        | rest => scanItem fuel items rest
      else (.array items.reverse (some .expectedListEnd), none)

def scanItem : Nat → List Node → List Char → Node × Option (List Char)
  | 0, items, _ => (.array items.reverse (some .eofList), none)
  | fuel + 1, items, cs =>
    match scanValue fuel cs with
    | (node, some rest) => scanItems fuel false (node :: items) rest
    | (node, none) => (.array (node :: items).reverse none, none)

def scanMembers : Nat → Bool → List (Quoted × Node) → List Char → Node × Option (List Char)
  | 0, _, members, _ => (.object members.reverse (some .eofObject), none)
  | fuel + 1, first, members, cs =>
    match skipSpace cs with
    | [] => (.object members.reverse (some .eofObject), none)
    | '\x7d' :: rest => (.object members.reverse none, some rest)
    | c :: rest =>
      if first then
        if c = '"' then scanMember fuel members rest
        else (.object members.reverse (some .keyNotString), none)
      else if c = ',' then
        match skipSpace rest with
        | [] => (.object members.reverse (some .eofValue), none)
        | '"' :: rest => scanMember fuel members rest
        | '\x7d' :: _ => (.object members.reverse (some .trailingComma), none)
        | _ => (.object members.reverse (some .keyNotString), none)
      else (.object members.reverse (some .expectedObjectEnd), none)

def scanMember : Nat → List (Quoted × Node) → List Char → Node × Option (List Char)
  | 0, members, _ => (.object members.reverse (some .eofObject), none)
  | fuel + 1, members, cs =>
    match scanString cs with
    | (key, none) => (.object ((key, .broken .eofObject) :: members).reverse none, none)
    | (key, some rest) =>
      match skipSpace rest with
      | ':' :: rest =>
        match scanValue fuel rest with
        | (node, some rest) => scanMembers fuel false ((key, node) :: members) rest
        | (node, none) => (.object ((key, node) :: members).reverse none, none)
      | [] => (.object ((key, .broken .eofObject) :: members).reverse none, none)
      | _ => (.object ((key, .broken .expectedColon) :: members).reverse none, none)

end

/-- A whole text: one value, and the fault if more than space follows it. -/
structure Document where
  root : Node
  trailing : Option Fault
  deriving Inhabited, Repr

def Document.scan (text : String) : Document :=
  let cs := text.toList
  match scanValue (3 * cs.length + 3) cs with
  | (node, none) => ⟨node, none⟩
  | (node, some rest) =>
    ⟨node, if (skipSpace rest).isEmpty then none else some .trailingCharacters⟩

/-- Reads a whole document. -/
def Document.read (reader : Nat → Node → Except Fault α) (doc : Document) : Except Fault α :=
  match reader depthLimit doc.root with
  | .error e => .error e
  | .ok a => match doc.trailing with
    | some fault => .error fault
    | none => .ok a

end MailRound.Json
