import MailRound.Failure
import MailRound.Json.Record

namespace MailRound

inductive Provider where
  | imap
  | gmailApi
  | outlookGraph
  | outlookImap
  deriving DecidableEq, Repr

namespace Provider

def tag : Provider → String
  | .imap => "imap"
  | .gmailApi => "gmail_api"
  | .outlookGraph => "outlook_graph"
  | .outlookImap => "outlook_imap"

def all : List Provider := [.imap, .gmailApi, .outlookGraph, .outlookImap]

/-- The provider with a tag; the tag has to match exactly. -/
def ofTag (s : String) : Outcome Provider :=
  match all.find? (·.tag = s) with
  | some p => .ok p
  | none => .error (.unknownProvider s)

def reader : Json.Reader Provider :=
  Json.Reader.variant (all.map fun p => (p.tag, p))

def toJson (p : Provider) : Json := .str p.tag

end Provider

end MailRound
