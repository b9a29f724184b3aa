import MailRound.Json.Record

namespace MailRound

/-- Which messages are fetched: whether they are marked as read afterwards, how many at most, and
what the provider itself understands. -/
structure Criteria where
  markAsRead : Bool
  maxEmails : Option Nat
  extra : Json.Members
  deriving Repr, Inhabited

namespace Criteria

def default : Criteria := ⟨false, none, []⟩

def text? (c : Criteria) (key : String) : Option String :=
  (c.extra.get? key).bind Json.asText?

def record : Json.Record (Json.Members → Criteria) :=
  (Json.Record.withDefault "mark_as_read_after_fetch" Json.Reader.bool false).map Criteria.mk
    |>.app (Json.Record.optional "max_emails" Json.Reader.nat32)

def reader : Json.Reader Criteria := record.openReader "FetchCriteria"

def toJson (c : Criteria) : Json :=
  let limit := match c.maxEmails with
    | none => []
    | some n => [("max_emails", Json.ofNat n)]
  .object (("mark_as_read_after_fetch", .bool c.markAsRead) :: (limit ++ c.extra))

end Criteria

end MailRound
