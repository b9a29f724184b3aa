import MailRound.Json.Record

namespace MailRound

/-- How often an account is polled, at what distance in seconds, and how many messages are asked
for each time. -/
structure Polling where
  maxPollCount : Nat
  pollInterval : Nat
  maxEmailsPerPoll : Nat
  deriving DecidableEq, Repr

structure PollingOverride where
  maxPollCount : Option Nat
  pollInterval : Option Nat
  maxEmailsPerPoll : Option Nat
  deriving DecidableEq, Repr

namespace Polling

def default : Polling := ⟨10, 60, 100⟩

/-- Field by field, what the account says wins over the defaults. -/
def mergedWith (p : Polling) : Option PollingOverride → Polling
  | none => p
  | some o =>
    ⟨o.maxPollCount.getD p.maxPollCount, o.pollInterval.getD p.pollInterval,
      o.maxEmailsPerPoll.getD p.maxEmailsPerPoll⟩

def record : Json.Record Polling :=
  (Json.Record.required "max_poll_count" Json.Reader.nat32).map Polling.mk
    |>.app (Json.Record.required "poll_interval" Json.Reader.nat64)
    |>.app (Json.Record.required "max_emails_per_poll" Json.Reader.nat32)

def reader : Json.Reader Polling := record.reader "PollingConfig"

def toJson (p : Polling) : Json :=
  .object [("max_poll_count", .ofNat p.maxPollCount), ("poll_interval", .ofNat p.pollInterval),
    ("max_emails_per_poll", .ofNat p.maxEmailsPerPoll)]

end Polling

namespace PollingOverride

def record : Json.Record PollingOverride :=
  (Json.Record.optional "max_poll_count" Json.Reader.nat32).map PollingOverride.mk
    |>.app (Json.Record.optional "poll_interval" Json.Reader.nat64)
    |>.app (Json.Record.optional "max_emails_per_poll" Json.Reader.nat32)

def reader : Json.Reader PollingOverride := record.reader "PollingOverride"

def toJson (o : PollingOverride) : Json :=
  .object [("max_poll_count", .ofOption .ofNat o.maxPollCount),
    ("poll_interval", .ofOption .ofNat o.pollInterval),
    ("max_emails_per_poll", .ofOption .ofNat o.maxEmailsPerPoll)]

end PollingOverride

end MailRound
