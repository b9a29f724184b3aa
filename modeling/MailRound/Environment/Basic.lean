import MailRound.Text.Utf8

namespace MailRound

/-- The variables of the process, by name; a value is any byte string. -/
structure Environment where
  vars : List (String × Bytes)
  deriving DecidableEq, Repr

namespace Environment

/-- The text of a variable. A value that is no text counts as unset. -/
def text? (env : Environment) (name : String) : Option String :=
  match env.vars.find? (·.1 = name) with
  | some (_, bytes) => Text.Utf8.decode? bytes
  | none => none

def set (env : Environment) (name value : String) : Environment :=
  ⟨(name, Text.Utf8.encode value) :: env.vars.filter (·.1 ≠ name)⟩

end Environment

end MailRound
