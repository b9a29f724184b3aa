import MailRound.Imap.Command

namespace MailRound.Imap

inductive Status where
  | ok
  | no (info : String)
  | bad (info : String)
  deriving DecidableEq, Repr

inductive Ending where
  | status (s : Status)
  /-- The server closes the line instead. -/
  | closed
  /-- The server sends what cannot be read, and the line is lost. -/
  | garbled (detail : String)
  /-- The line was lost before the command. -/
  | gone
  deriving DecidableEq, Repr

/-- An answer: numbers that were found, messages (without a body, or with one), and the end. -/
structure Answer where
  uids : List Nat
  bodies : List (Option Bytes)
  ending : Ending
  deriving DecidableEq, Repr

inductive Fault where
  | refused (info : String)
  | rejected (info : String)
  | lost
  | unreadable (detail : String)
  | argument (c : Char)
  deriving DecidableEq, Repr

def Fault.message : Fault → String
  | .refused info => "no response: code: None, info: " ++ Text.Quoted.quoteOption (some info)
  | .rejected info => "bad response: code: None, info: " ++ Text.Quoted.quoteOption (some info)
  | .lost => "connection lost"
  | .unreadable detail => "io: " ++ detail
  | .argument c => "validate: invalid character in input: '" ++ String.singleton c ++ "'"

def Status.check : Status → Except Fault Unit
  | .ok => .ok ()
  | .no info => .error (.refused info)
  | .bad info => .error (.rejected info)

def Ending.strict : Ending → Except Fault Unit
  | .status s => s.check
  | .closed => .error .lost
  | .gone => .error .lost
  | .garbled detail => .error (.unreadable detail)

def Ending.selected : Ending → Except Fault Unit
  | .status s => s.check
  | .closed => .ok ()
  | .gone => .ok ()
  | .garbled detail => .error (.unreadable detail)

/-- The end of a command that only has to be readable. -/
def Ending.readable : Ending → Except Fault Unit
  | .garbled detail => .error (.unreadable detail)
  | _ => .ok ()

end MailRound.Imap
