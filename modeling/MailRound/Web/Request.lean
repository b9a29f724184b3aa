import MailRound.Json.Record
import MailRound.Web.Status
import MailRound.Web.Url

namespace MailRound.Web

inductive Method where
  | get
  | post
  | patch
  deriving DecidableEq, Repr

structure Request where
  method : Method
  url : Url
  authorization : Option String
  contentType : Option String
  body : String
  deriving DecidableEq, Repr

/-- What comes of a request: a reply, a connection that ends without one, or a server that never
sees the request. -/
inductive Answer where
  | reply (status : Nat) (body : String)
  | dropped
  | unreached
  deriving DecidableEq, Repr

inductive Fault where
  | address (why : UrlFault)
  | scheme (url : Url)
  | header
  | unanswered (url : Url)
  | status (url : Url) (code : Nat)
  | content (why : Json.Fault)
  deriving DecidableEq, Repr

def Fault.message : Fault → String
  | .address why => "builder error: " ++ why.message
  | .scheme url => "builder error for url (" ++ url.text ++ "): URL scheme is not allowed"
  | .header => "builder error: failed to parse header value"
  | .unanswered url => "error sending request for url (" ++ url.text ++ ")"
  | .status url code =>
    "HTTP status " ++ (if Status.isClientError code then "client" else "server") ++ " error (" ++
      Status.text code ++ ") for url (" ++ url.text ++ ")"
  | .content why => "error decoding response body: " ++ why.message

def readAddress (address : String) : Except Fault Url :=
  match Url.read address with
  | .error why => .error (.address why)
  | .ok url => if url.hasHost then .ok url else .error (.scheme url)

/-- A header holds no control characters but tabs. -/
def isHeaderText (s : String) : Bool := s.toList.all fun c => !isControl c || c == '\t'

def bearer (token : String) : String := "Bearer " ++ token

structure Extras where
  token : Option String := none
  query : List (String × String) := []
  content : Option (String × String) := none
  deriving DecidableEq, Repr

/-- Puts a request together. The address is looked at first, then the token. -/
def Request.make (method : Method) (address : String) (extras : Extras) : Except Fault Request :=
  match readAddress address with
  | .error fault => .error fault
  | .ok url =>
    let authorization := extras.token.map bearer
    let url := url.withoutCredentials.withQuery extras.query
    if !(authorization.all isHeaderText) then .error .header
    else if url.scheme ≠ "http" ∧ url.scheme ≠ "https" then .error (.scheme url)
    else .ok ⟨method, url, authorization, extras.content.map Prod.fst,
      (extras.content.map Prod.snd).getD ""⟩

structure Reply where
  url : Url
  status : Nat
  body : String
  deriving DecidableEq, Repr

def Answer.toReply (request : Request) : Answer → Except Fault Reply
  | .reply status body => .ok ⟨request.url, status, body⟩
  | .dropped => .error (.unanswered request.url)
  | .unreached => .error (.unanswered request.url)

/-- Refuses the statuses of errors. -/
def Reply.accepted (r : Reply) : Except Fault Reply :=
  if Status.isError r.status then .error (.status r.url r.status) else .ok r

def Reply.read (reader : Json.Reader α) (r : Reply) : Except Fault α :=
  match Json.readText reader r.body with
  | .ok a => .ok a
  | .error why => .error (.content why)

end MailRound.Web
