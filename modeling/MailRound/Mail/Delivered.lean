namespace MailRound

/-- The ids that were handed out, each once. -/
structure Delivered where
  ids : List String
  deriving DecidableEq, Repr

namespace Delivered

def empty : Delivered := ⟨[]⟩

def seen (d : Delivered) (id : String) : Bool := d.ids.contains id

/-- Records an id, and says whether it is new. -/
def mark (d : Delivered) (id : String) : Bool × Delivered :=
  if d.seen id then (false, d) else (true, ⟨d.ids ++ [id]⟩)

def clear (_ : Delivered) : Delivered := empty

def size (d : Delivered) : Nat := d.ids.length

def isEmpty (d : Delivered) : Bool := d.ids.isEmpty

end Delivered

end MailRound
