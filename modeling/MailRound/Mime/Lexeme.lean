import MailRound.Text.Utf8

namespace MailRound.Mime

/-- A piece of text that is being read, held backwards: what is passed over inside it counts, what
is passed over after it does not until more of it follows. -/
structure Lexeme where
  read : Bytes
  gap : Bytes
  deriving DecidableEq, Repr

namespace Lexeme

def empty : Lexeme := ⟨[], []⟩

def isEmpty (l : Lexeme) : Bool := l.read.isEmpty

def push (l : Lexeme) (b : UInt8) : Lexeme := ⟨b :: (l.gap ++ l.read), []⟩

def skip (l : Lexeme) (b : UInt8) : Lexeme :=
  if l.read.isEmpty then l else ⟨l.read, b :: l.gap⟩

def bytes (l : Lexeme) : Bytes := l.read.reverse

def text (l : Lexeme) : String := Text.Utf8.decodeLossy l.bytes

def whole (l : Lexeme) : String := Text.Utf8.decodeLossy (l.gap ++ l.read).reverse

end Lexeme

end MailRound.Mime
