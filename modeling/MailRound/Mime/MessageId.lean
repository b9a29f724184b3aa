import MailRound.Mime.Field
import MailRound.Mime.Lexeme

namespace MailRound.Mime

/-- A field of message identifiers while it is read: what stands in angle brackets, the last one
first, and what stands outside. -/
structure MessageId where
  inside : Bool
  id : Lexeme
  loose : Lexeme
  found : List String
  deriving DecidableEq, Repr

namespace MessageId

def start : MessageId := ⟨false, .empty, .empty, []⟩

def skip (s : MessageId) (b : UInt8) : MessageId :=
  { s with id := s.id.skip b, loose := s.loose.skip b }

def step (s : MessageId) (b : UInt8) : MessageId :=
  match Char.ofUInt8 b with
  | '<' => { s.skip b with inside := true }
  | '>' =>
    if s.id.isEmpty then { s.skip b with inside := false }
    else { s with inside := false, id := .empty, found := s.id.text :: s.found }
  | ' ' | '\t' | '\r' | '\n' => s.skip b
  | _ => if s.inside then { s with id := s.id.push b } else { s with loose := s.loose.push b }

/-- The last identifier in angle brackets, else the text outside. -/
def ofField (f : Field) : Option String :=
  if f.ended then
    let s := f.value.foldl step start
    match s.found with
    | id :: _ => some id
    | [] => if s.loose.isEmpty then none else some s.loose.text
  else none

end MessageId

end MailRound.Mime
