import MailRound.Fetcher.Config
import MailRound.Fetcher.GraphMessage
import MailRound.Fetcher.Query
import MailRound.Network.Token

namespace MailRound

structure GraphFetcher where
  config : GraphConfig
  client : Option Web.Client
  token : Option String
  deriving DecidableEq, Repr

namespace Graph

def endpoint : String := "https://graph.microsoft.com/v1.0"

def selectedFields : String :=
  "id,internetMessageId,subject,from,toRecipients,ccRecipients,bccRecipients," ++
    "receivedDateTime,body,hasAttachments"

def parameters (criteria : Criteria) : List (String × String) :=
  [("$filter", criteria.graphFilter), ("$select", selectedFields), ("$expand", "attachments"),
    ("$top", Text.decimal (criteria.maxEmails.getD 25))]

def parametersText (pairs : List (String × String)) : String :=
  "[" ++ ", ".intercalate (pairs.map fun (k, v) =>
    "(" ++ Text.Quoted.quote k ++ ", " ++ Text.Quoted.quote v ++ ")") ++ "]"

def note {ω : Type} (level : Log.Level) (text : String) : Errand ω Unit :=
  Errand.note .graph level ("Outlook Graph API: " ++ text)

end Graph

/-- Where the messages are: an application has to name the user. -/
def GraphConfig.messagesPath (config : GraphConfig) : Outcome String :=
  match config.auth with
  | .tenant _ _ =>
    match config.user with
    | some user => .ok ("/users/" ++ user ++ "/messages")
    | none => .error
      (.config "outlook_graph tenant mode requires user_principal_name or email_address")
  | _ => .ok "/me/messages"

namespace GraphFetcher

variable {ω : Type}

def new (config : GraphConfig) : GraphFetcher := ⟨config, none, none⟩

def openConnection (net : Network ω) (config : GraphConfig) : Errand ω Connection := do
  let client ← Errand.client config.proxy
  let scope := " ".intercalate config.scopes
  let clientId := config.clientId.getD ""
  match config.auth with
  | .provided token =>
    Graph.note .info "using provided access token"
    return ⟨client, token⟩
  | .tenant tenantId clientSecret =>
    Graph.note .info ("requesting application token for tenant " ++ tenantId)
    let token ← Token.obtain net client (Token.tenantUrl tenantId)
      (.client clientId clientSecret scope)
    return ⟨client, token.accessToken⟩
  | .personal refreshToken =>
    Graph.note .info "refreshing delegated access token"
    let token ← Token.obtain net client Token.consumersUrl
      (.refresh clientId none refreshToken (some scope))
    return ⟨client, token.accessToken⟩

def connect (net : Network ω) (f : GraphFetcher) :
    StateM (Desk ω) (Outcome Unit × GraphFetcher) := do
  match ← (openConnection net f.config).run with
  | .ok c => return (.ok (), { f with client := some c.client, token := some c.token })
  | .error why => return (.error why, f)

def connected (f : GraphFetcher) : Errand ω Connection :=
  match f.client, f.token with
  | some client, some token => pure ⟨client, token⟩
  | _, _ => throw (.connection "Not connected to Microsoft Graph.")

def fetch (net : Network ω) (f : GraphFetcher) (criteria : Criteria) :
    Errand ω (List Message) := do
  let path ← Errand.require id f.config.messagesPath
  let c ← f.connected
  let parameters := Graph.parameters criteria
  Graph.note .debug ("fetching emails with params " ++ Graph.parametersText parameters)
  let sent ← ExceptT.lift (c.send net .get (Graph.endpoint ++ path) { query := parameters })
  let reply ← Errand.require (fun e => .fetch ("Graph request failed: " ++ e.message)) sent
  if !Web.Status.isSuccess reply.status then
    throw (.fetch ("Graph API returned " ++ Web.Status.text reply.status ++ ": " ++ reply.body))
  let list ← Errand.require (fun e => .fetch ("invalid Graph response: " ++ e.message))
    (reply.read Graph.Listing.reader)
  if list.items.isEmpty then
    Graph.note .info ("no emails match filter '" ++ criteria.graphFilter ++ "'")
    return []
  else
    Graph.note .info ("found " ++ Text.decimal list.items.length ++ " matching emails.")
    return list.items.map (Graph.Item.toMessage f.config.accountEmail)

def markBody : Json := .object [("isRead", .bool true)]

def markOne (net : Network ω) (c : Connection) (path id : String) : StateM (Desk ω) Unit := do
  let sent ← c.send net .patch (Graph.endpoint ++ path ++ "/" ++ id)
    { content := some ("application/json", markBody.print) }
  match sent.bind Web.Reply.accepted with
  | .ok _ =>
    Desk.note [⟨.info, .graph, "Outlook Graph API: marked email " ++ id ++ " as read."⟩]
  | .error e =>
    Desk.note [⟨.error, .graph,
      "Outlook Graph API: failed to mark email " ++ id ++ " as read: " ++ e.message⟩]

def markEach (net : Network ω) (c : Connection) (path : String) :
    List String → StateM (Desk ω) Unit
  | [] => return ()
  | id :: ids => do
    markOne net c path id
    markEach net c path ids

/-- Marks messages one after the other; a failure of one is only noted. -/
def markRead (net : Network ω) (f : GraphFetcher) (ids : List String) : Errand ω Unit := do
  let path ← Errand.require id f.config.messagesPath
  let c ← f.connected
  ExceptT.lift (markEach net c path ids)

def disconnect (f : GraphFetcher) : GraphFetcher := { f with client := none, token := none }

end GraphFetcher

end MailRound
