import MailRound.Mime.EncodedWord
import MailRound.Mime.Field
import MailRound.Mime.Lexeme

namespace MailRound.Mime

/-- The free text of a field such as a subject, while it is read: the pieces so far, backwards,
and whether the last of them was an encoded word. -/
structure Prose where
  pieces : List String
  lexeme : Lexeme
  afterWord : Bool
  deriving DecidableEq, Repr

namespace Prose

def start : Prose := ⟨[], .empty, true⟩

/-- Ends the plain piece; one blank divides it from what stands before. -/
def flush (p : Prose) : Prose :=
  if p.lexeme.isEmpty then p
  else
    let pieces := if p.pieces.isEmpty then [] else " " :: p.pieces
    ⟨p.lexeme.text :: pieces, .empty, false⟩

def addWord (p : Prose) (word : String) : Prose :=
  let p := p.flush
  ⟨word :: (if p.afterWord then p.pieces else " " :: p.pieces), .empty, true⟩

def step (p : Prose) (b : UInt8) : Prose :=
  match Char.ofUInt8 b with
  | '\n' => p.flush
  | ' ' | '\t' | '\r' => { p with lexeme := p.lexeme.skip b }
  | _ => { p with lexeme := p.lexeme.push b }

def readFrom (p : Prose) (bs : Bytes) : Prose :=
  match bs with
  | [] => p.flush
  | b :: bs =>
    match (if b = 61 then EncodedWord.read? bs else none) with
    | some (word, n) => readFrom (p.addWord word) (bs.drop n)
    | none => readFrom (p.step b) bs
termination_by bs.length
decreasing_by all_goals (simp only [List.length_cons, List.length_drop]; omega)

/-- The text of a field; none if there is nothing but blanks or the field is not ended. -/
def ofField (f : Field) : Option String :=
  if f.ended then
    match (readFrom start f.value).pieces with
    | [] => none
    | pieces => some (String.join pieces.reverse)
  else none

end Prose

end MailRound.Mime
