import MailRound.Mime.EncodedWord
import MailRound.Mime.Field
import MailRound.Mime.Lexeme

namespace MailRound.Mime

/-- A media type or a disposition: a type, perhaps a subtype, and named parameters. -/
structure MediaType where
  type : String
  subtype : Option String
  parameters : List (String × String)
  deriving DecidableEq, Repr

namespace MediaType

def parameter? (m : MediaType) (name : String) : Option String :=
  (m.parameters.find? (·.1 == name)).map (·.2)

def text (m : MediaType) : String :=
  match m.subtype with
  | some subtype => m.type ++ "/" ++ subtype
  | none => m.type

inductive Zone where
  | type
  | subtype
  | name
  | value
  | quoted
  | comment
  deriving DecidableEq, Repr

/-- A field while it is read. A star in the name of a parameter makes it `continued`: its value is
one of several (`name*1`), or `encoded` with its character set in front (`name*`), or both
(`name*1*`). The values of one parameter are held backwards; `unfold` tells that the present one
runs over a line end. -/
structure State where
  zone : Zone
  outer : List Zone
  lexeme : Lexeme
  atStart : Bool
  escaped : Bool
  unfold : Bool
  type : Option String
  subtype : Option String
  label : Option String
  continued : Bool
  encoded : Bool
  charset : Option String
  position : Nat
  values : List String
  parameters : List (String × String)
  continuations : List (String × Nat × String)
  deriving DecidableEq, Repr

def State.start : State :=
  ⟨.type, [], .empty, true, false, false, none, none, none, false, false, none, 0, [], [], []⟩

/-- Bytes behind a text in which `%` and two digits stand for one; none if something else follows a
`%`. An escape that the end cuts off is dropped. -/
def percentBytes? : Transfer.Escape → Bytes → Option Bytes
  | _, [] => some []
  | .none, b :: bs =>
    if b = 37 then percentBytes? .opened bs else (percentBytes? .none bs).map (b :: ·)
  | .opened, b :: bs =>
    match Text.hexDigitValue? (Char.ofUInt8 b) with
    | some v => percentBytes? (.half v) bs
    | none => none
  | .half v, b :: bs =>
    match Text.hexDigitValue? (Char.ofUInt8 b) with
    | some w => (percentBytes? .none bs).map (UInt8.ofNat (v * 16 + w) :: ·)
    | none => none

namespace State

def cleared (s : State) : State := { s with lexeme := .empty, atStart := true }

def endWord (s : State) : State :=
  if s.lexeme.isEmpty then s
  else
    let word := Text.lowerAscii s.lexeme.text
    let s := s.cleared
    match s.zone with
    | .type => { s with type := some word }
    | .subtype => { s with subtype := some word }
    | _ => { s with label := some word }

/-- The number after a star; what is no number counts as the first. -/
def readPosition (l : Lexeme) : Nat :=
  ((Text.readUnsigned Text.limit32 l.text.toList).toOption).getD 0

def skip (s : State) (b : UInt8) : State := { s with lexeme := s.lexeme.skip b }

def push (s : State) (b : UInt8) : State :=
  { s with lexeme := s.lexeme.push b, atStart := false, escaped := false }

def star (s : State) : State :=
  if !s.continued then { s.endWord with continued := !s.lexeme.isEmpty }
  else if s.encoded then s.cleared
  else if s.lexeme.isEmpty then { s with encoded := true }
  else { s.cleared with position := readPosition s.lexeme, encoded := true }

def equals (s : State) : State :=
  if !s.continued then if s.lexeme.isEmpty then s else { s.endWord with zone := .value }
  else if s.encoded then { s.cleared with zone := .value }
  else if s.lexeme.isEmpty then { s with encoded := true, zone := .value }
  else { s.cleared with position := readPosition s.lexeme, zone := .value }

/-- An apostrophe in an encoded value ends the character set, then the language, which is kept as a
parameter of its own. -/
def apostrophe (s : State) : State :=
  if s.lexeme.isEmpty then s
  else
    let word := s.lexeme.text
    let s := s.cleared
    if s.charset.isNone then { s with charset := some word }
    else
      let language := s.label.getD "" ++ "-language"
      if s.parameters.any (·.1 == language) then { s with values := word :: "'" :: s.values }
      else { s with parameters := s.parameters ++ [(language, word)] }

def decoded (s : State) (value : String) : String :=
  if s.encoded then
    match percentBytes? .none (Text.Utf8.encode value) with
    | some bs => Charset.decodeNamed (Text.Utf8.encode (s.charset.getD "")) bs
    | none => value
  else value

/-- The last part of a value; line ends that run through it are taken out. -/
def lastPart (s : State) : String :=
  if s.unfold then Text.Utf8.decodeLossy (s.lexeme.bytes.filter fun b => b ≠ 13 && b ≠ 10)
  else s.lexeme.text

/-- Ends a value. An empty one does not count. -/
def endValue (s : State) : State :=
  match s.label with
  | none => s
  | some label =>
    if s.lexeme.isEmpty && s.values.isEmpty then s
    else
      let values := if s.lexeme.isEmpty then s.values else s.lastPart :: s.values
      let value := String.join values.reverse
      let s' := { s.cleared with
        unfold := s.unfold && s.lexeme.isEmpty
        label := none
        values := [] }
      if s.continued then
        let s' := { s' with continued := false, encoded := false, charset := none, position := 0 }
        if s.position = 0 then { s' with parameters := s.parameters ++ [(label, s.decoded value)] }
        else
          { s' with continuations := (label, s.position, s.decoded value) :: s.continuations }
      else { s' with parameters := s.parameters ++ [(label, value)] }

/-- Keeps the part of a value read so far. Outside quotes a blank follows it. -/
def keepPart (s : State) (part : String) : State :=
  if s.lexeme.isEmpty then s
  else if s.zone = .quoted then { s.cleared with values := part :: s.values }
  else { s.cleared with values := " " :: part :: s.values }

def escape (s : State) : State :=
  let part := if s.zone = .quoted then s.lexeme.whole else s.lexeme.text
  { s.keepPart part with escaped := true }

def endPart (s : State) : State :=
  match s.zone with
  | .type | .subtype | .name => s.endWord
  | .value | .quoted => s.endValue
  | .comment => s

def addWord (s : State) (word : String) : State :=
  let s := s.keepPart s.lexeme.text
  { s with values := word :: s.values }

/-- A line end inside the field, with the blank that follows it. It ends what it does not stand
in: a quoted value and a comment go on. -/
def fold (s : State) (blank : Option UInt8) : State :=
  match s.zone with
  | .quoted =>
    let s := s.skip 10
    { (blank.map s.skip).getD s with unfold := true, atStart := true }
  | .comment => { s with atStart := true }
  | .type => { s.endWord with atStart := true }
  | _ => { s.endPart with zone := .name, atStart := true }

def semicolon (s : State) (b : UInt8) : State :=
  match s.zone with
  | .type | .subtype | .name => { s.endWord with zone := .name }
  | .value => if s.escaped then { s.skip b with escaped := false } else { s.endValue with zone := .name }
  | .quoted | .comment => s.push b

def quote (s : State) (b : UInt8) : State :=
  match s.zone with
  | .value => { s.skip b with atStart := true, zone := .quoted }
  | .quoted => if s.escaped then s.push b else { s.endValue with zone := .name }
  | _ => s.skip b

def openComment (s : State) (b : UInt8) : State :=
  if s.escaped then { s.skip b with escaped := false }
  else { s.endPart with zone := .comment, outer := s.zone :: s.outer }

def closeComment (s : State) : State :=
  { s.cleared with zone := s.outer.head?.getD .type, outer := s.outer.tail }

def inValue (s : State) : Bool := s.zone == .value || s.zone == .quoted

def step (s : State) (b : UInt8) : State :=
  match Char.ofUInt8 b with
  | ' ' | '\t' =>
    { s with
      lexeme := if s.zone = .quoted then s.lexeme.push b else s.lexeme.skip b
      atStart := true }
  | '/' => if s.zone = .type then { s.endWord with zone := .subtype } else s.push b
  | ';' => s.semicolon b
  | '*' => if s.zone = .name then s.star else s.push b
  | '=' => if s.zone = .name then s.equals else s.push b
  | '"' => s.quote b
  | '\\' => if s.inValue && !s.escaped then s.escape else s.push b
  | '\x27' => if s.inValue && s.encoded && !s.escaped then s.apostrophe else s.push b
  | '(' => if s.zone = .quoted then s.push b else s.openComment b
  | ')' => if s.zone = .comment then s.closeComment else s.push b
  | '\r' => s.skip b
  | _ => s.push b

end State

def readFrom (s : State) (bs : Bytes) : State :=
  match bs with
  | [] => s
  | b :: bs =>
    match (if b = 61 && s.atStart && s.inValue then EncodedWord.read? bs else none) with
    | some (word, n) => readFrom (s.addWord word) (bs.drop n)
    | none =>
      if b = 10 then readFrom (s.fold bs.head?) (bs.drop 1) else readFrom (s.step b) bs
termination_by bs.length
decreasing_by all_goals (simp only [List.length_cons, List.length_drop]; omega)

def append (parameters : List (String × String)) (name value : String) : List (String × String) :=
  if parameters.any (·.1 == name) then
    let (before, after) := parameters.span (·.1 != name)
    match after with
    | (_, old) :: rest => before ++ (name, old ++ value) :: rest
    | [] => before
  else parameters ++ [(name, value)]

/-- Pieces are put together by their number, those with one number by their text. -/
def merged (s : State) : List (String × String) :=
  let later := s.continuations.mergeSort fun a b =>
    a.2.1 < b.2.1 || (a.2.1 == b.2.1 && !(b.2.2 < a.2.2))
  later.foldl (fun ps (name, _, value) => append ps name value) s.parameters

def ofField (f : Field) : Option MediaType :=
  if f.ended then
    let s := (readFrom .start f.value).endPart
    s.type.map fun type => ⟨type, s.subtype, merged s⟩
  else none

end MediaType

end MailRound.Mime
