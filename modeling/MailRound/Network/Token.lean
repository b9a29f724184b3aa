import MailRound.Network.Desk

namespace MailRound

structure Token where
  accessToken : String
  refreshToken : Option String
  expiresIn : Option Nat
  deriving DecidableEq, Repr

namespace Token

def record : Json.Record Token :=
  (Json.Record.required "access_token" Json.Reader.text).map Token.mk
    |>.app (Json.Record.optional "refresh_token" Json.Reader.text)
    |>.app (Json.Record.optional "expires_in" Json.Reader.nat64)

def reader : Json.Reader Token := record.reader "TokenResponse"

def toJson (t : Token) : Json :=
  .object [("access_token", .str t.accessToken), ("refresh_token", .ofText t.refreshToken),
    ("expires_in", .ofOption .ofNat t.expiresIn)]

def tenantUrl (tenant : String) : String :=
  "https://login.microsoftonline.com/" ++ tenant ++ "/oauth2/v2.0/token"

def consumersUrl : String := tenantUrl "consumers"

def googleUrl : String := "https://oauth2.googleapis.com/token"

inductive Grant where
  | refresh (clientId : String) (clientSecret : Option String) (refreshToken : String)
    (scope : Option String)
  | client (clientId clientSecret scope : String)
  deriving DecidableEq, Repr

def Grant.form : Grant → List (String × String)
  | .refresh clientId clientSecret refreshToken scope =>
    [("client_id", clientId), ("grant_type", "refresh_token"), ("refresh_token", refreshToken)] ++
      (clientSecret.toList.map ("client_secret", ·)) ++ (scope.toList.map ("scope", ·))
  | .client clientId clientSecret scope =>
    [("client_id", clientId), ("client_secret", clientSecret),
      ("grant_type", "client_credentials"), ("scope", scope)]

def formRequest (url : String) (form : List (String × String)) : Except Web.Fault Web.Request :=
  Web.Request.make .post url { content := some ("application/x-www-form-urlencoded", Web.Form.text form) }

variable {ω : Type}

/-- Hands in a form at a token endpoint. Whatever goes wrong is a failure of the connection. -/
def request (net : Network ω) (client : Web.Client) (url : String)
    (form : List (String × String)) : Errand ω Token := do
  let sent ← ExceptT.lift (Desk.send net client (formRequest url form))
  let reply ← Errand.require
    (fun fault => .connection ("token request failed: " ++ fault.message)) sent
  if Web.Status.isSuccess reply.status then
    Errand.require (fun fault => .connection ("invalid token response: " ++ fault.message))
      (reply.read reader)
  else
    let status := Web.Status.text reply.status
    Errand.note .token .warn ("Token endpoint returned " ++ status ++ ": " ++ reply.body)
    throw (.connection ("token endpoint returned " ++ status))

def obtain (net : Network ω) (client : Web.Client) (url : String) (grant : Grant) :
    Errand ω Token :=
  request net client url grant.form

end Token

/-- A client with the token that its requests carry. -/
structure Connection where
  client : Web.Client
  token : String
  deriving DecidableEq, Repr

/-- A client that goes over a proxy if one is given. -/
def Errand.client {ω : Type} (proxy : Option String) : Errand ω Web.Client := do
  let (log, outcome) := Web.Client.new proxy
  ExceptT.lift (Desk.note log)
  Errand.require id outcome

/-- Makes a request that carries the token. -/
def Connection.send {ω : Type} (net : Network ω) (c : Connection) (method : Web.Method)
    (address : String) (extras : Web.Extras) :
    StateM (Desk ω) (Except Web.Fault Web.Reply) :=
  Desk.send net c.client (Web.Request.make method address { extras with token := some c.token })

end MailRound
