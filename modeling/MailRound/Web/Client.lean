import MailRound.Failure
import MailRound.Log
import MailRound.Web.Request

namespace MailRound.Web

structure Client where
  proxy : Option Url
  deriving DecidableEq, Repr

/-- Whether a text may be an address that only lacks its scheme. -/
def Fault.lacksScheme : Fault → Bool
  | .address .relative => true
  | .scheme _ => true
  | _ => false

/-- Reads the address of a proxy, which may stand without a scheme. -/
def readProxyAddress (proxy : String) : Except Fault Url :=
  match readAddress proxy with
  | .ok url => .ok url
  | .error fault =>
    if fault.lacksScheme then
      match readAddress ("http://" ++ proxy) with
      | .ok url => .ok url
      | .error _ => .error fault
    else .error fault

/-- Characters that a host may hold but that are not sent. -/
def isUnsent (c : Char) : Bool := ['"', '\x60', '\x7b', '\x7d'].contains c

def readProxy (proxy : String) : Except String Url :=
  match readProxyAddress proxy with
  | .error fault => .error fault.message
  | .ok url =>
    if url.scheme ≠ "http" ∧ url.scheme ≠ "https" then .error "unknown proxy scheme"
    else if (url.host.getD "").toList.any isUnsent then .error "invalid uri character"
    else .ok url

/-- A client, with what it tells about itself. -/
def Client.new : Option String → List Log.Event × Outcome Client
  | none => ([], .ok ⟨none⟩)
  | some proxy =>
    match readProxy proxy with
    | .error why =>
      ([], .error (.config ("invalid proxy " ++ proxy ++ ": builder error: " ++ why)))
    | .ok url => ([⟨.info, .token, "Using HTTP proxy for mailbox access"⟩], .ok ⟨some url⟩)

end MailRound.Web
