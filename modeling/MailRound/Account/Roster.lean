import MailRound.Account.Basic
import MailRound.Log
import MailRound.Text.Blank
import MailRound.Text.Utf8

namespace MailRound

inductive FileFault where
  | missing
  | directory
  | other (detail : String)
  deriving DecidableEq, Repr

def FileFault.message : FileFault → String
  | .missing => "No such file or directory (os error 2)"
  | .directory => "Is a directory (os error 21)"
  | .other detail => detail

structure Roster where
  accounts : List Account
  deriving Repr, Inhabited

namespace Roster

def record : Json.Record Roster :=
  (Json.Record.withDefault "accounts" (Json.Reader.list Account.reader) []).map Roster.mk

def reader : Json.Reader Roster := record.reader "PollerConfig"

def toJson (r : Roster) : Json :=
  .object [("accounts", .ofList Account.toJson r.accounts)]

def enabled (r : Roster) : List Account := r.accounts.filter (·.enabled)

def unnamed? (accounts : List Account) : Option Nat :=
  accounts.findIdx? fun a => (Text.trim a.id).isEmpty

def event (level : Log.Level) (text : String) : Log.Event := ⟨level, .roster, text⟩

def validate (r : Roster) : Outcome (List Log.Event) :=
  match unnamed? r.accounts with
  | some i => .error (.config ("account #" ++ Text.decimal i ++ " has an empty id"))
  | none =>
    if r.enabled.isEmpty then .ok [event .warn "No enabled accounts in configuration"] else .ok []

/-- Reads an account document; every account needs an id. -/
def ofText (text : String) : Outcome (Roster × List Log.Event) :=
  match Json.readText reader text with
  | .error e => .error (.config ("invalid account document: " ++ e.message))
  | .ok r => (r.validate).map fun log => (r, log)

def unreadable (path why : String) : List Log.Event × Outcome Roster :=
  ([event .error ("Configuration file not found: " ++ path)],
    .error (.config ("cannot read " ++ path ++ ": " ++ why)))

def ofFile (path : String) (content : Except FileFault Bytes) : List Log.Event × Outcome Roster :=
  match content with
  | .error fault => unreadable path fault.message
  | .ok bytes =>
    match Text.Utf8.decode? bytes with
    | none => unreadable path "stream did not contain valid UTF-8"
    | some text =>
      match ofText text with
      | .error e => ([event .error ("Error decoding JSON from " ++ path)], .error e)
      | .ok (r, log) =>
        (log ++ [event .info ("Configuration loaded successfully from " ++ path)], .ok r)

end Roster

end MailRound
