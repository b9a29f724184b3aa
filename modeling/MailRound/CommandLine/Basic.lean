import MailRound.Account.Polling
import MailRound.Text.Numeral

namespace MailRound

structure CommandLine where
  config : String
  maxPollCount : Option Nat
  pollInterval : Option Nat
  maxEmails : Option Nat
  /-- Seconds between looks into the queue. -/
  waitTimeout : Nat
  serviceName : String
  deriving DecidableEq, Repr

namespace CommandLine

/-- What is told here wins over the environment. -/
def overrides (c : CommandLine) : PollingOverride :=
  ⟨c.maxPollCount, c.pollInterval, c.maxEmails⟩

inductive Key where
  | config
  | maxPollCount
  | pollInterval
  | maxEmails
  | waitTimeout
  | serviceName
  deriving DecidableEq, Repr

namespace Key

def all : List Key :=
  [.config, .maxPollCount, .pollInterval, .maxEmails, .waitTimeout, .serviceName]

def long : Key → String
  | .config => "config"
  | .maxPollCount => "max-poll-count"
  | .pollInterval => "poll-interval"
  | .maxEmails => "max-emails"
  | .waitTimeout => "wait-timeout"
  | .serviceName => "service-name"

def placeholder : Key → String
  | .config => "FILE"
  | .maxPollCount => "MAX_POLL_COUNT"
  | .pollInterval => "POLL_INTERVAL"
  | .maxEmails => "MAX_EMAILS"
  | .waitTimeout => "WAIT_TIMEOUT"
  | .serviceName => "SERVICE_NAME"

def usage (k : Key) : String := "--" ++ k.long ++ " <" ++ k.placeholder ++ ">"

def ofLong? (name : String) : Option Key := all.find? (·.long = name)

end Key

inductive Fault where
  | help
  | unknown (argument : String)
  | valueMissing (key : Key)
  | valueInvalid (key : Key) (value why : String)
  | repeated (key : Key)
  | valueUnwanted (value : String)
  | configMissing
  deriving DecidableEq, Repr

end CommandLine

end MailRound
