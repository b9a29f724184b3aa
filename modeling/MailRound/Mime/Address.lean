import MailRound.Mime.EncodedWord
import MailRound.Mime.Field
import MailRound.Mime.Lexeme

namespace MailRound.Mime

structure Mailbox where
  name : Option String
  address : Option String
  deriving DecidableEq, Repr

namespace Address

inductive Zone where
  | name
  | angle
  | quote
  | comment
  deriving DecidableEq, Repr

/-- A list of addresses while it is read. The lists of pieces are held backwards, `outer` are the
zones around the present one, and `done` the entries so far. -/
structure State where
  zone : Zone
  outer : List Zone
  lexeme : Lexeme
  hasAt : Bool
  atStart : Bool
  escaped : Bool
  afterWord : Bool
  name : List String
  mail : List String
  comment : List String
  done : List Mailbox
  deriving DecidableEq, Repr

def State.start : State := ⟨.name, [], .empty, false, true, false, false, [], [], [], []⟩

namespace State

def spaced (pieces : List String) (piece : String) : List String :=
  piece :: (if pieces.isEmpty then pieces else " " :: pieces)

/-- Files the piece just read: in angle brackets it is an address; outside, a piece with an at
sign is one and any other is part of the name. -/
def flushAs (s : State) (piece : String) : State :=
  if s.lexeme.isEmpty then s
  else
    let s' := { s with
      lexeme := .empty
      hasAt := false
      atStart := true
      escaped := false
      afterWord := false }
    match s.zone with
    | .angle => { s' with mail := piece :: s.mail }
    | .name =>
      if s.hasAt then { s' with mail := piece :: s.mail }
      else { s' with name := spaced s.name piece }
    | .quote => { s' with name := piece :: s.name }
    | .comment => { s' with comment := spaced s.comment piece }

def flush (s : State) : State := s.flushAs s.lexeme.text

def joined (pieces : List String) : String := String.join pieces.reverse

/-- Ends an entry. A comment is added to the name or stands in for it. -/
def finish (s : State) : State :=
  let name :=
    match s.name.isEmpty, s.comment.isEmpty with
    | false, false => some (joined s.name ++ " (" ++ joined s.comment ++ ")")
    | false, true => some (joined s.name)
    | true, false => some (joined s.comment)
    | true, true => none
  let address := if s.mail.isEmpty then none else some (joined s.mail)
  if name.isNone && address.isNone then s
  else { s with name := [], mail := [], comment := [], done := ⟨name, address⟩ :: s.done }

def enter (s : State) (zone : Zone) : State := { s with zone := zone, outer := s.zone :: s.outer }

def leave (s : State) : State :=
  { s with zone := s.outer.head?.getD .name, outer := s.outer.tail }

/-- What stood before the colon of a group is the group's name and no part of an entry. -/
def openGroup (s : State) : State :=
  { s.flush with name := [], mail := [], comment := [] }

/-- Adds an encoded word to the name or the comment. A blank divides it from what stands before,
unless that was an encoded word too. -/
def addWord (s : State) (word : String) : State :=
  let s := s.flush
  let add (pieces : List String) :=
    if s.zone = .quote ∨ s.afterWord then word :: pieces else spaced pieces word
  if s.zone = .comment then { s with comment := add s.comment, afterWord := true }
  else { s with name := add s.name, afterWord := true }

def push (s : State) (b : UInt8) : State :=
  { s with lexeme := s.lexeme.push b, atStart := false, escaped := false }

def blank (s : State) (b : UInt8) : State :=
  { s with
    lexeme := if s.zone = .quote then s.lexeme.push b else s.lexeme.skip b
    atStart := true
    escaped := false }

def fold (s : State) : State := { s.flush with atStart := true }

def escape (s : State) : State :=
  { s.flushAs (if s.zone = .quote then s.lexeme.whole else s.lexeme.text) with escaped := true }

/-- A quote that opens takes the piece before it along. -/
def quote (s : State) (b : UInt8) : State :=
  match s.zone with
  | .name => (s.enter .quote).flush
  | .quote => s.flush.leave
  | _ => s.push b

def openComment (s : State) (b : UInt8) : State :=
  if s.zone = .comment then (s.enter .comment).push b else s.flush.enter .comment

def closeComment (s : State) (b : UInt8) : State :=
  if s.outer.head? = some .comment then s.leave.push b else s.flush.leave

def step (s : State) (b : UInt8) : State :=
  match Char.ofUInt8 b with
  | '\\' => if s.zone ≠ .name && !s.escaped then s.escape else s.push b
  | ',' => if s.zone = .name then s.flush.finish else s.push b
  | '<' =>
    if s.zone = .name then ({ s with hasAt := false }.flush).enter .angle else s.push b
  | '>' => if s.zone = .angle then s.flush.leave else s.push b
  | '"' => if s.escaped then s.push b else s.quote b
  | '@' => if s.zone = .name then { s.push b with hasAt := true } else s.push b
  | ' ' | '\t' => s.blank b
  | '\r' => { s with lexeme := s.lexeme.skip b }
  | '(' => if s.zone ≠ .quote && !s.escaped then s.openComment b else s.push b
  | ')' => if s.zone = .comment && !s.escaped then s.closeComment b else s.push b
  | ':' => if s.zone = .name && !s.escaped then s.openGroup else s.push b
  | ';' => if s.zone = .name then s.flush.finish else s.push b
  | _ => s.push b

end State

def readFrom (s : State) (bs : Bytes) : State :=
  match bs with
  | [] => s
  | b :: bs =>
    match (if b = 61 && s.atStart && !s.escaped then EncodedWord.read? bs else none) with
    | some (word, n) => readFrom (s.addWord word) (bs.drop n)
    | none => if b = 10 then readFrom s.fold (bs.drop 1) else readFrom (s.step b) bs
termination_by bs.length
decreasing_by all_goals (simp only [List.length_cons, List.length_drop]; omega)

/-- The entries of a field in order, those of groups among them. -/
def ofField (f : Field) : List Mailbox :=
  let s := readFrom .start f.value
  ((if f.ended then s.flush else s).finish).done.reverse

end Address

/-- An entry without an address is not shown; a name stands before the address. -/
def Mailbox.text? (m : Mailbox) : Option String :=
  m.address.map fun address =>
    match m.name with
    | some name => if name = "" then address else name ++ " <" ++ address ++ ">"
    | none => address

end MailRound.Mime
