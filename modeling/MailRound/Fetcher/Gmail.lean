import MailRound.Fetcher.Config
import MailRound.Fetcher.Query
import MailRound.Mail.Reading
import MailRound.Network.Token

namespace MailRound

structure GmailFetcher where
  config : GmailConfig
  client : Option Web.Client
  token : Option String
  deriving DecidableEq, Repr

namespace Gmail

def endpoint : String := "https://gmail.googleapis.com/gmail/v1/users/me"

structure Entry where
  id : String
  deriving DecidableEq, Repr

structure Listing where
  messages : List Entry
  deriving DecidableEq, Repr

structure Raw where
  id : String
  raw : Option String
  deriving DecidableEq, Repr

def Entry.record : Json.Record Entry :=
  (Json.Record.required "id" Json.Reader.text).map Entry.mk

def Listing.record : Json.Record Listing :=
  (Json.Record.withDefault "messages" (Json.Reader.list (Entry.record.reader "MessageRef")) []).map
    Listing.mk

def Raw.record : Json.Record Raw :=
  (Json.Record.required "id" Json.Reader.text).map Raw.mk
    |>.app (Json.Record.optional "raw" Json.Reader.text)

def Raw.bytes (m : Raw) : Outcome Bytes :=
  match m.raw with
  | some raw => decodeRaw raw
  | none => .error (.processing ("Gmail message " ++ m.id ++ " has no raw content"))

def note {ω : Type} (level : Log.Level) (text : String) : Errand ω Unit :=
  Errand.note .gmail level ("Gmail API: " ++ text)

end Gmail

namespace GmailFetcher

variable {ω : Type}

def new (config : GmailConfig) : GmailFetcher := ⟨config, none, none⟩

/-- A new connection: with the token of the account, or with a fresh one. -/
def openConnection (net : Network ω) (config : GmailConfig) : Errand ω Connection := do
  let client ← Errand.client config.proxy
  match config.auth with
  | .provided token => return ⟨client, token⟩
  | .refresh clientId clientSecret refreshToken =>
    Gmail.note .info "refreshing access token"
    let token ← Token.obtain net client Token.googleUrl
      (.refresh clientId (some clientSecret) refreshToken none)
    return ⟨client, token.accessToken⟩

/-- Connects anew. The fetcher stays as it is when that fails. -/
def connect (net : Network ω) (f : GmailFetcher) :
    StateM (Desk ω) (Outcome Unit × GmailFetcher) := do
  match ← (openConnection net f.config).run with
  | .ok c => return (.ok (), { f with client := some c.client, token := some c.token })
  | .error why => return (.error why, f)

def connected (f : GmailFetcher) : Errand ω Connection :=
  match f.client, f.token with
  | some client, some token => pure ⟨client, token⟩
  | _, _ => throw (.connection "Not connected to Gmail API.")

def listRequest (criteria : Criteria) : Web.Extras :=
  { query := [("q", criteria.gmailQuery),
      ("maxResults", Text.decimal (criteria.maxEmails.getD 25))] }

def listing (net : Network ω) (c : Connection) (criteria : Criteria) :
    Errand ω (List String) := do
  let sent ← ExceptT.lift (c.send net .get (Gmail.endpoint ++ "/messages") (listRequest criteria))
  let reply ← Errand.require (fun e => .fetch ("Gmail list failed: " ++ e.message))
    (sent.bind Web.Reply.accepted)
  let list ← Errand.require (fun e => .fetch ("invalid Gmail list response: " ++ e.message))
    (reply.read (Gmail.Listing.record.reader "MessageList"))
  return list.messages.map (·.id)

/-- The bytes of a message in the reply to a request for it. -/
def rawBytes (id : String) (sent : Except Web.Fault Web.Reply) : Outcome Bytes :=
  match sent.bind Web.Reply.accepted with
  | .error e => .error (.fetch ("Gmail get " ++ id ++ " failed: " ++ e.message))
  | .ok reply =>
    match reply.read (Gmail.Raw.record.reader "RawMessage") with
    | .error e => .error (.fetch ("invalid Gmail message " ++ id ++ ": " ++ e.message))
    | .ok raw => raw.bytes

/-- The message behind a reply. Its id is the one in the list. -/
def readReply (config : GmailConfig) (id : String) (sent : Except Web.Fault Web.Reply) :
    Outcome Message :=
  (rawBytes id sent).bind fun bytes => Message.ofRaw id bytes .gmailApi config.accountEmail

def get (net : Network ω) (config : GmailConfig) (c : Connection) (id : String) :
    StateM (Desk ω) (Outcome Message) := do
  let sent ← c.send net .get (Gmail.endpoint ++ "/messages/" ++ id) { query := [("format", "raw")] }
  return readReply config id sent

/-- Asks for messages one after the other and keeps those that can be had. -/
def getEach (net : Network ω) (config : GmailConfig) (c : Connection) :
    List String → StateM (Desk ω) (List Message)
  | [] => return []
  | id :: ids => do
    match ← get net config c id with
    | .ok message =>
      let rest ← getEach net config c ids
      return message :: rest
    | .error why =>
      Desk.note [⟨.warn, .gmail, "Gmail API: skipping message " ++ id ++ ": " ++ why.message⟩]
      getEach net config c ids

def fetch (net : Network ω) (f : GmailFetcher) (criteria : Criteria) :
    Errand ω (List Message) := do
  let c ← f.connected
  let ids ← listing net c criteria
  if ids.isEmpty then
    Gmail.note .info ("no emails match query '" ++ criteria.gmailQuery ++ "'")
    return []
  else
    Gmail.note .info ("found " ++ Text.decimal ids.length ++ " matching emails.")
    ExceptT.lift (getEach net f.config c ids)

def markBody (ids : List String) : Json :=
  .object [("ids", .ofList .str ids), ("removeLabelIds", .arr [.str "UNREAD"])]

/-- Marks all messages with one request; without any there is none. -/
def markRead (net : Network ω) (f : GmailFetcher) (ids : List String) : Errand ω Unit := do
  if ids.isEmpty then return ()
  else
    let c ← f.connected
    let sent ← ExceptT.lift (c.send net .post (Gmail.endpoint ++ "/messages/batchModify")
      { content := some ("application/json", (markBody ids).print) })
    match sent.bind Web.Reply.accepted with
    | .ok _ => Gmail.note .info ("marked " ++ Text.decimal ids.length ++ " emails as read.")
    | .error e =>
      Gmail.note .error ("failed to mark emails as read: " ++ e.message)
      throw (.markRead e.message)

def disconnect (f : GmailFetcher) : GmailFetcher := { f with client := none, token := none }

end GmailFetcher

end MailRound
