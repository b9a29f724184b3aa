namespace MailRound

/-- Why an operation on accounts or mailboxes failed. -/
inductive Failure where
  | config (detail : String)
  | connection (detail : String)
  | fetch (detail : String)
  | processing (detail : String)
  | markRead (detail : String)
  | unknownProvider (tag : String)
  | io (detail : String)
  | json (detail : String)
  deriving DecidableEq, Repr

namespace Failure

def message : Failure → String
  | .config detail => "Configuration error: " ++ detail
  | .connection detail => "Connection error: " ++ detail
  | .fetch detail => "Fetch error: " ++ detail
  | .processing detail => "Processing error: " ++ detail
  | .markRead detail => "Mark as read error: " ++ detail
  | .unknownProvider tag => "Unknown fetcher type: " ++ tag
  | .io detail => "IO error: " ++ detail
  | .json detail => "JSON error: " ++ detail

end Failure

abbrev Outcome (α : Type) := Except Failure α

end MailRound
