import MailRound.Account.Basic
import MailRound.Log
import MailRound.Mail.Message

namespace MailRound

/-- How a call to a mailbox ends: it comes back, or takes its caller down. -/
inductive Fate (α : Type) where
  | returns (result : Outcome α)
  | panics (message : String)

/-- What a call does to the world and to the fetcher, how many milliseconds it takes, and how it
ends. -/
structure Reply (ω φ α : Type) where
  world : ω
  fetcher : φ
  delay : Nat
  log : List Log.Event
  fate : Fate α

/-- Access to mailboxes: fetchers are made for one attempt each. -/
structure Mailboxes (ω φ : Type) where
  create : ω → Account → ω × List Log.Event × Outcome φ
  connect : ω → φ → Reply ω φ Unit
  fetch : ω → φ → Criteria → Reply ω φ (List Message)
  markRead : ω → φ → List String → Reply ω φ Unit
  disconnect : ω → φ → Reply ω φ Unit

inductive Call where
  | create (account : Account)
  | connect (account : Account)
  | fetch (account : Account) (criteria : Criteria)
  | markRead (account : Account) (ids : List String)
  | disconnect (account : Account)
  deriving Repr

def Call.text : Call → String
  | .create a => "create:" ++ a.id
  | .connect a => "connect:" ++ a.id
  | .fetch a c => "fetch:" ++ a.id ++ ":" ++ c.toJson.print
  | .markRead a ids => "mark:" ++ a.id ++ ":" ++ ",".intercalate ids
  | .disconnect a => "disconnect:" ++ a.id

end MailRound
