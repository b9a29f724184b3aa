import MailRound.Fetcher.Gmail
import MailRound.Proofs.Fetcher.Errands
import MailRound.Proofs.Web.Address

namespace MailRound.GmailFetcher

variable {ω : Type} {net : Network ω} {config : GmailConfig} {c : Connection} {criteria : Criteria}
  {ids : List String}

def domain : List Char := "gmail.googleapis.com".toList

theorem domain_plain : ∀ d ∈ domain, Web.Domain.Plain d :=
  Web.forall_of_all (by decide +kernel)

theorem read_domain : Web.Host.read domain = .ok (String.ofList domain) :=
  Web.Host.read_eq_self domain_plain (by decide) (by decide +kernel) (by decide +kernel)

theorem endpoint_append (rest : String) : Gmail.endpoint ++ rest =
    "https://" ++ String.ofList domain ++ "/" ++ ("gmail/v1/users/me" ++ rest) := by
  rw [← String.append_assoc]
  exact congrArg (· ++ rest) (by decide +kernel)

variable {extras : Web.Extras} {request : Web.Request} {rest : String}

theorem make_endpoint (fits : Web.FitsHeader extras.token) (rest : String) :
    ∃ request, Web.Request.make .get (Gmail.endpoint ++ rest) extras = .ok request := by
  rw [endpoint_append]
  exact Web.Request.make_plain domain_plain (by decide) read_domain (by decide) fits _

/-- A request to the interface for something to read, which shows the token of the connection. -/
structure Reads (c : Connection) (request : Web.Request) : Prop where
  method : request.method = .get
  scheme : request.url.scheme = "https"
  host : request.url.host = some "gmail.googleapis.com"
  authorization : request.authorization = some ("Bearer " ++ c.token)
  contentType : request.contentType = none
  body : request.body = ""

def requestList (c : Connection) (criteria : Criteria) : Except Web.Fault Web.Request :=
  Web.Request.make .get (Gmail.endpoint ++ "/messages")
    { listRequest criteria with token := some c.token }

def requestMessage (c : Connection) (id : String) : Except Web.Fault Web.Request :=
  Web.Request.make .get (Gmail.endpoint ++ "/messages/" ++ id)
    { query := [("format", "raw")], token := some c.token }

/-- What comes of asking for a message. -/
inductive Fate where
  | unanswered
  | refused (status : Nat)
  | garbled (why : Json.Fault)
  | withoutRaw
  | undecodable (why : Failure)
  | unparseable
  | had (m : Message)

def Fate.message? : Fate → Option Message
  | .had m => some m
  | _ => none

def fateOfRaw (config : GmailConfig) (id : String) : Option String → Fate
  | none => .withoutRaw
  | some text =>
    match decodeRaw text with
    | .error why => .undecodable why
    | .ok bytes =>
      match Message.ofRaw id bytes .gmailApi config.accountEmail with
      | .error _ => .unparseable
      | .ok m => .had m

/-- The fate of a message by the answer to the request for it. -/
def fate (config : GmailConfig) (id : String) : Web.Answer → Fate
  | .dropped => .unanswered
  | .unreached => .unanswered
  | .reply status body =>
    if Web.Status.isError status then .refused status
    else
      match Json.readText (Gmail.Raw.record.reader "RawMessage") body with
      | .error why => .garbled why
      | .ok raw => fateOfRaw config id raw.raw

/-- A message that was asked for, with which request, and how that was answered. -/
structure Inquiry where
  id : String
  request : Web.Request
  answer : Web.Answer

namespace Inquiry

def exchange (q : Inquiry) : Exchange := .web q.request q.answer

def mail? (config : GmailConfig) (q : Inquiry) : Option Message :=
  (fate config q.id q.answer).message?

def mails (config : GmailConfig) (qs : List Inquiry) : List Message := qs.filterMap (mail? config)

end Inquiry

/-- What comes of asking for the messages `ids` in turn: one exchange for each, and the messages
that are had. -/
def Asks (config : GmailConfig) (c : Connection) (ids : List String) (sent : List Exchange)
    (messages : List Message) : Prop :=
  ∃ qs : List Inquiry, qs.map (·.id) = ids ∧
    (∀ q ∈ qs, requestMessage c q.id = .ok q.request) ∧
    sent = qs.map Inquiry.exchange ∧ messages = Inquiry.mails config qs

/-- The one exchange for a list of the messages `ids`. -/
def Lists (c : Connection) (criteria : Criteria) (ids : List String) (sent : List Exchange) :
    Prop :=
  ∃ request status body list, requestList c criteria = .ok request ∧
    sent = [.web request (.reply status body)] ∧ Web.Status.isError status = false ∧
    Json.readText (Gmail.Listing.record.reader "MessageList") body = .ok list ∧
    list.messages.map (·.id) = ids

theorem Lists.able {sent : List Exchange} (lists : Lists c criteria ids sent) (id : String) :
    ∃ request, requestMessage c id = .ok request := by
  obtain ⟨request, status, body, list, made, -⟩ := lists
  have fits : Web.FitsHeader (some c.token) := Web.Request.fitsHeader_of_make made
  rw [requestMessage, String.append_assoc]
  exact make_endpoint fits _

variable {d : Desk ω}

def fetched (net : Network ω) (config : GmailConfig) (c : Connection) (criteria : Criteria)
    (d : Desk ω) : Outcome (List Message) × Desk ω :=
  (fetch net ⟨config, some c.client, some c.token⟩ criteria).run.run d

/-- Servers that give these answers, one after the other. -/
def scripted : Network (List Web.Answer) where
  ask answers _ _ := (answers.headD .unreached, answers.tail)
  dial answers _ _ := (.error (.tcp "no route to host"), answers)
  tell answers _ _ := (⟨[], [], .gone⟩, answers)

end MailRound.GmailFetcher
