import MailRound.Account.Polling
import MailRound.Account.Roster
import MailRound.Environment.Basic

namespace MailRound.Polling

def setting (env : Environment) (name : String) (bound default : Nat) : Outcome Nat :=
  match env.text? name with
  | none => .ok default
  | some raw =>
    match Text.readUnsigned bound (Text.trim raw).toList with
    | .ok n => .ok n
    | .error e => .error (.config ("Invalid " ++ name ++ ": " ++ e.message))

def warnings (p : Polling) : List Log.Event :=
  (if p.maxPollCount = 0 then
    [Roster.event .warn "POLL_MAX_COUNT is 0, accounts will never be fetched"] else []) ++
  (if 3600 < p.pollInterval then
    [Roster.event .warn ("Poll interval " ++ Text.decimal p.pollInterval ++
      " is very long (>1 hour), is this intended?")] else [])

def ofEnvironment (env : Environment) : Outcome Polling :=
  match setting env "POLL_MAX_COUNT" Text.limit32 default.maxPollCount with
  | .error e => .error e
  | .ok count => match setting env "POLL_INTERVAL" Text.limit64 default.pollInterval with
    | .error e => .error e
    | .ok interval => match setting env "POLL_MAX_EMAILS" Text.limit32 default.maxEmailsPerPoll with
      | .error e => .error e
      | .ok emails => .ok ⟨count, interval, emails⟩

end MailRound.Polling
