import MailRound.Json.Print
import MailRound.Program.Basic
import MailRound.Text.Terminal

namespace MailRound.Log.Event

/-- The event as a line shows it: nothing in its text can act on a terminal. -/
def legible (e : Event) : Event := { e with text := Text.Terminal.spell e.text }

def plain (stamp : String) (e : Event) : String :=
  stamp ++ " " ++ e.level.name ++ " " ++ e.origin.target ++ ": " ++ e.legible.text ++ "\n"

def pretty (stamp : String) (e : Event) : String := "  " ++ e.plain stamp ++ "\n"

def data (stamp : String) (e : Event) : String :=
  (Json.object [("timestamp", .str stamp), ("level", .str e.level.name),
    ("fields", .object [("message", .str e.text)]), ("target", .str e.origin.target)]).print ++ "\n"

end MailRound.Log.Event

namespace MailRound.Program.Journal

def console (j : Journal) (stamp : String) : String :=
  String.join (j.events.map fun e => match j.format with
    | .json => e.data stamp
    | .pretty => e.pretty stamp
    | .compact => e.plain stamp)

def file (j : Journal) (stamp : String) : String :=
  String.join (j.events.map fun e => match j.format with
    | .json => e.data stamp
    | _ => e.plain stamp)

end MailRound.Program.Journal
