import MailRound.Fetcher.Settings
import MailRound.Log

namespace MailRound

inductive ImapAuth where
  | password (password : String)
  | token (clientId refreshToken : String) (proxy : Option String)
  deriving DecidableEq, Repr

structure ImapConfig where
  provider : Provider
  server : String
  port : Nat
  username : String
  auth : ImapAuth
  mailbox : String
  accountEmail : Option String
  deriving DecidableEq, Repr

inductive GmailAuth where
  | provided (token : String)
  | refresh (clientId clientSecret refreshToken : String)
  deriving DecidableEq, Repr

structure GmailConfig where
  auth : GmailAuth
  accountEmail : Option String
  proxy : Option String
  deriving DecidableEq, Repr

inductive GraphAuth where
  | provided (token : String)
  | tenant (tenantId clientSecret : String)
  | personal (refreshToken : String)
  deriving DecidableEq, Repr

structure GraphConfig where
  clientId : Option String
  auth : GraphAuth
  user : Option String
  scopes : List String
  accountEmail : Option String
  proxy : Option String
  deriving DecidableEq, Repr

inductive FetcherConfig where
  | imap (config : ImapConfig)
  | gmail (config : GmailConfig)
  | graph (config : GraphConfig)
  deriving DecidableEq, Repr

def ImapConfig.ofMembers (members : Json.Members) : Outcome ImapConfig := do
  let s : FetcherSettings := ⟨.imap, members⟩
  let server ← s.required "server"
  let port ← s.portOr "port" 993
  let username ← s.required "username"
  let password ← s.required "password"
  return ⟨.imap, server, port, username, .password password, s.textOr "mailbox" "INBOX",
    s.text? "email_address"⟩

def ImapConfig.outlookOfMembers (members : Json.Members) : Outcome ImapConfig := do
  let s : FetcherSettings := ⟨.outlookImap, members⟩
  let port ← s.portOr "port" 993
  let username ← s.required "username"
  let clientId ← s.required "client_id"
  let refreshToken ← s.required "refresh_token"
  return ⟨.outlookImap, s.textOr "server" "outlook.office365.com", port, username,
    .token clientId refreshToken (s.text? "proxy"), s.textOr "mailbox" "INBOX",
    s.text? "email_address"⟩

def GmailConfig.ofMembers (members : Json.Members) : Outcome GmailConfig := do
  let s : FetcherSettings := ⟨.gmailApi, members⟩
  let auth ← match s.text? "access_token" with
    | some token => pure (GmailAuth.provided token)
    | none => do
      let clientId ← s.required "client_id"
      let clientSecret ← s.required "client_secret"
      let refreshToken ← s.required "refresh_token"
      pure (.refresh clientId clientSecret refreshToken)
  return ⟨auth, s.text? "email_address", s.text? "proxy"⟩

/-- A token that is given comes first, then an application with a secret, then a person. -/
def GraphAuth.ofSettings (s : FetcherSettings) : Outcome GraphAuth :=
  match s.text? "access_token" with
  | some token => .ok (.provided token)
  | none =>
    match s.text? "tenant_id", s.text? "client_secret" with
    | some tenantId, some secret => .ok (.tenant tenantId secret)
    | _, _ => (s.required "refresh_token").map .personal

def GraphAuth.defaultScopes : GraphAuth → List String
  | .tenant _ _ => ["https://graph.microsoft.com/.default"]
  | _ => ["Mail.Read", "Mail.ReadWrite"]

def GraphAuth.isProvided : GraphAuth → Bool
  | .provided _ => true
  | _ => false

def GraphConfig.ofMembers (members : Json.Members) : Outcome GraphConfig := do
  let s : FetcherSettings := ⟨.outlookGraph, members⟩
  let accountEmail := s.text? "email_address"
  let auth ← GraphAuth.ofSettings s
  let clientId := s.text? "client_id"
  if clientId.isNone && !auth.isProvided then
    throw (.config "outlook_graph fetcher requires config.client_id")
  return ⟨clientId, auth, (s.text? "user_principal_name").or accountEmail,
    (s.texts? "scopes").getD auth.defaultScopes, accountEmail, s.text? "proxy"⟩

def FetcherConfig.ofProvider (p : Provider) (members : Json.Members) : Outcome FetcherConfig :=
  match p with
  | .imap => (ImapConfig.ofMembers members).map .imap
  | .outlookImap => (ImapConfig.outlookOfMembers members).map .imap
  | .outlookGraph => (GraphConfig.ofMembers members).map .graph
  | .gmailApi => (GmailConfig.ofMembers members).map .gmail

def FetcherConfig.ofAccount (a : Account) : List Log.Event × Outcome FetcherConfig :=
  match a.provider with
  | .error why => ([], .error why)
  | .ok p =>
    ([⟨.debug, .factory, "[" ++ a.id ++ "] Creating " ++ p.tag ++ " fetcher"⟩],
      ofProvider p a.settings)

end MailRound
