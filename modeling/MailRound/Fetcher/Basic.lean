import MailRound.Fetcher.Gmail
import MailRound.Fetcher.Graph
import MailRound.Fetcher.Imap
import MailRound.Poller.Mailboxes

namespace MailRound

inductive Fetcher where
  | imap (fetcher : ImapFetcher)
  | gmail (fetcher : GmailFetcher)
  | graph (fetcher : GraphFetcher)
  deriving DecidableEq, Repr

namespace Fetcher

variable {ω : Type} {α : Type}

def ofConfig : FetcherConfig → Fetcher
  | .imap config => .imap (.new config)
  | .gmail config => .gmail (.new config)
  | .graph config => .graph (.new config)

def ofAccount (a : Account) : List Log.Event × Outcome Fetcher :=
  let (log, outcome) := FetcherConfig.ofAccount a
  (log, outcome.map ofConfig)

def connect (net : Network ω) : Fetcher → StateM (Desk ω) (Outcome Unit × Fetcher)
  | .imap f => do
    let (result, f) ← f.connect net
    return (result, .imap f)
  | .gmail f => do
    let (result, f) ← f.connect net
    return (result, .gmail f)
  | .graph f => do
    let (result, f) ← f.connect net
    return (result, .graph f)

def fetch (net : Network ω) (criteria : Criteria) : Fetcher → Errand ω (List Message)
  | .imap f => f.fetch net criteria
  | .gmail f => f.fetch net criteria
  | .graph f => f.fetch net criteria

def markRead (net : Network ω) (ids : List String) : Fetcher → Errand ω Unit
  | .imap f => f.markRead net ids
  | .gmail f => f.markRead net ids
  | .graph f => f.markRead net ids

def disconnect (net : Network ω) : Fetcher → StateM (Desk ω) Fetcher
  | .imap f => do
    let f ← f.disconnect net
    return .imap f
  | .gmail f => return .gmail f.disconnect
  | .graph f => return .graph f.disconnect

/-- A call that takes no time: its log is handed over, and the exchanges stay on the desk. -/
def reply (run : StateM (Desk ω) (Outcome α × Fetcher)) (d : Desk ω) : Reply (Desk ω) Fetcher α :=
  let ((result, f), d) := run.run { d with log := [] }
  ⟨{ d with log := [] }, f, 0, d.log, .returns result⟩

def mailboxes (net : Network ω) : Mailboxes (Desk ω) Fetcher where
  create d account :=
    let (log, outcome) := ofAccount account
    (d, log, outcome)
  connect d f := reply (f.connect net) d
  fetch d f criteria := reply (do
    let result ← (f.fetch net criteria).run
    return (result, f)) d
  markRead d f ids := reply (do
    let result ← (f.markRead net ids).run
    return (result, f)) d
  disconnect d f := reply (do
    let f ← f.disconnect net
    return (.ok (), f)) d

end Fetcher

end MailRound
