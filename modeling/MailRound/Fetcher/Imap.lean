import MailRound.Fetcher.Config
import MailRound.Fetcher.Query
import MailRound.Mail.Reading
import MailRound.Network.Token

namespace MailRound

structure ImapFetcher where
  config : ImapConfig
  line : Option Nat
  deriving DecidableEq, Repr

namespace ImapFetcher

variable {ω : Type}

def new (config : ImapConfig) : ImapFetcher := ⟨config, none⟩

def note (level : Log.Level) (text : String) : Errand ω Unit := Errand.note .imap level text

/-- Gives a command, unless an argument of it does not fit on a line. -/
def command (net : Network ω) (line : Nat) (c : Imap.Command) :
    StateM (Desk ω) (Except Imap.Fault Imap.Answer) :=
  match c.arguments.findSome? Imap.breaker? with
  | some bad => pure (.error (.argument bad))
  | none => do
    let answer ← Desk.tell net line c
    return .ok answer

def dialFailure (server : String) : DialFault → Failure
  | .tcp detail => .connection ("TCP connect to " ++ server ++ " failed: " ++ detail)
  | .tls detail => .connection ("TLS handshake failed: " ++ detail)

/-- Logs in with the password, or with a fresh token. -/
def logIn (net : Network ω) (config : ImapConfig) (line : Nat) : Errand ω Unit := do
  let (label, attempt) ← match config.auth with
    | .password password =>
      pure ("IMAP", Imap.Command.login config.username password)
    | .token clientId refreshToken proxy => do
      let client ← Errand.client proxy
      let token ← Token.obtain net client Token.consumersUrl
        (.refresh clientId none refreshToken none)
      pure ("XOAUTH2", Imap.Command.authenticate config.username token.accessToken)
  let answer ← ExceptT.lift (command net line attempt)
  Errand.require (fun e => .connection (label ++ " authentication failed: " ++ e.message))
    (answer.bind fun a => a.ending.strict)

def openLine (net : Network ω) (config : ImapConfig) : Errand ω Nat := do
  note .info ("Connecting to IMAP server " ++ config.server ++ ":" ++ Text.decimal config.port ++
    "...")
  let dialled ← ExceptT.lift (Desk.dial net config.server config.port)
  let line ← Errand.require (dialFailure config.server) dialled
  logIn net config line
  note .info ("IMAP: Successfully connected to " ++ config.server ++ " for user " ++
    config.username)
  return line

def connect (net : Network ω) (f : ImapFetcher) :
    StateM (Desk ω) (Outcome Unit × ImapFetcher) := do
  match f.line with
  | some _ => return (.ok (), f)
  | none =>
    match ← (openLine net f.config).run with
    | .ok line => return (.ok (), { f with line := some line })
    | .error why => return (.error why, f)

def connected (f : ImapFetcher) : Errand ω Nat :=
  match f.line with
  | some line => pure line
  | none => throw (.connection "Not connected to IMAP server.")

def search (net : Network ω) (line : Nat) (mailbox query : String) : Errand ω (List Nat) := do
  let answer ← ExceptT.lift (command net line (.select mailbox))
  Errand.require (fun e => .fetch ("Failed to select mailbox " ++ mailbox ++ ": " ++ e.message))
    (answer.bind fun a => a.ending.selected)
  note .debug ("IMAP: Searching with criteria: " ++ query)
  let answer ← ExceptT.lift (command net line (.search query))
  Errand.require (fun e => .fetch ("Failed to search emails: " ++ e.message))
    (answer.bind fun a => a.ending.readable.map fun _ => a.uids.eraseDups)

def readBody (config : ImapConfig) (uid : Nat) : Option Bytes → Except Log.Event Message
  | none => .error ⟨.warn, .imap, "IMAP: No body returned for email UID " ++ Text.decimal uid⟩
  | some raw =>
    match Message.ofRaw (Text.decimal uid) raw config.provider config.accountEmail with
    | .ok message => .ok message
    | .error why => .error ⟨.error, .imap, "IMAP: " ++ why.message⟩

def readBodies (config : ImapConfig) (uid : Nat) :
    List (Option Bytes) → StateM (Desk ω) (List Message)
  | [] => return []
  | body :: bodies =>
    match readBody config uid body with
    | .ok message => do
      let rest ← readBodies config uid bodies
      return message :: rest
    | .error event => do
      Desk.note [event]
      readBodies config uid bodies

def get (net : Network ω) (config : ImapConfig) (line uid : Nat) :
    StateM (Desk ω) (List Message) := do
  let answer ← Desk.tell net line (.fetch uid)
  let messages ← readBodies config uid answer.bodies
  match answer.ending.readable with
  | .ok () => return messages
  | .error e =>
    Desk.note [⟨.error, .imap, "IMAP: Error fetching email UID " ++ Text.decimal uid ++ ": " ++
      e.message⟩]
    return messages

def getEach (net : Network ω) (config : ImapConfig) (line : Nat) :
    List Nat → StateM (Desk ω) (List Message)
  | [] => return []
  | uid :: uids => do
    let messages ← get net config line uid
    let rest ← getEach net config line uids
    return messages ++ rest

def fetch (net : Network ω) (f : ImapFetcher) (criteria : Criteria) : Errand ω (List Message) := do
  let query ← Errand.require id criteria.imapSearch
  let line ← f.connected
  let mailbox := f.config.mailbox
  let found ← search net line mailbox query
  let uids := newestUids found criteria.maxEmails
  if uids.isEmpty then
    note .info ("IMAP: No emails found for criteria '" ++ query ++ "' in " ++ mailbox)
    return []
  else
    note .info ("IMAP: Found " ++ Text.decimal uids.length ++ " emails matching criteria.")
    ExceptT.lift (getEach net f.config line uids)

def markRead (net : Network ω) (f : ImapFetcher) (ids : List String) : Errand ω Unit := do
  if ids.isEmpty then return ()
  else
    let joined := ",".intercalate ids
    let line ← f.connected
    note .info ("IMAP: Marking emails as read: " ++ joined)
    let answer ← ExceptT.lift (Desk.tell net line (.store joined))
    Errand.require (fun e => .markRead e.message) answer.ending.readable

/-- Logs out and gives the line up, whatever the server answers. -/
def disconnect (net : Network ω) (f : ImapFetcher) : StateM (Desk ω) ImapFetcher := do
  match f.line with
  | none => return f
  | some line =>
    let answer ← Desk.tell net line .logout
    let user := f.config.username
    Desk.note [match answer.ending.strict with
      | .ok () => ⟨.info, .imap, "IMAP: Successfully disconnected from " ++ f.config.server ++
          " for user " ++ user⟩
      | .error e => ⟨.warn, .imap, "IMAP: Error during disconnect for " ++ user ++ ": " ++
          e.message⟩]
    return { f with line := none }

end ImapFetcher

end MailRound
