import MailRound.Account.Criteria
import MailRound.Account.Polling
import MailRound.Account.Provider

namespace MailRound

/-- One mailbox account. The provider's tag is kept as written; whether it is known shows when the
account is polled. -/
structure Account where
  id : String
  providerTag : String
  enabled : Bool
  emailAddress : Option String
  config : Json.Members
  criteria : Criteria
  polling : Option PollingOverride
  deriving Repr, Inhabited

namespace Account

def provider (a : Account) : Outcome Provider := Provider.ofTag a.providerTag

def effectivePolling (a : Account) (defaults : Polling) : Polling :=
  defaults.mergedWith a.polling

theorem effectivePolling_eq (a : Account) (defaults : Polling) : a.effectivePolling defaults =
    ⟨(a.polling.bind (·.maxPollCount)).getD defaults.maxPollCount,
      (a.polling.bind (·.pollInterval)).getD defaults.pollInterval,
      (a.polling.bind (·.maxEmailsPerPoll)).getD defaults.maxEmailsPerPoll⟩ := by
  unfold effectivePolling
  cases a.polling <;> rfl

/-- The provider's settings; the address of the account stands in for one that is missing. -/
def settings (a : Account) : Json.Members :=
  if a.config.has "email_address" then a.config
  else match a.emailAddress with
    | some email => a.config.insert "email_address" (.str email)
    | none => a.config

def displayEmail (a : Account) : String := a.emailAddress.getD "Unknown"

def record : Json.Record Account :=
  (Json.Record.withDefault "id" Json.Reader.text "").map Account.mk
    |>.app (Json.Record.required "type" Json.Reader.text)
    |>.app (Json.Record.withDefault "enabled" Json.Reader.bool false)
    |>.app (Json.Record.optional "email_address" Json.Reader.text)
    |>.app (Json.Record.withDefault "config" Json.Reader.members [])
    |>.app (Json.Record.withDefault "fetch_criteria" Criteria.reader Criteria.default)
    |>.app (Json.Record.optional "polling_config" PollingOverride.reader)

def reader : Json.Reader Account := record.reader "AccountConfig"

def toJson (a : Account) : Json :=
  .object [("id", .str a.id), ("type", .str a.providerTag), ("enabled", .bool a.enabled),
    ("email_address", .ofText a.emailAddress), ("config", .obj a.config),
    ("fetch_criteria", a.criteria.toJson),
    ("polling_config", .ofOption PollingOverride.toJson a.polling)]

end Account

end MailRound
