import MailRound.Imap.Answer
import MailRound.Web.Client

namespace MailRound

inductive DialFault where
  | tcp (detail : String)
  | tls (detail : String)
  deriving DecidableEq, Repr

/-- What lies outside: servers that are asked over the web, and mail servers with open lines. -/
structure Network (ω : Type) where
  ask : ω → Web.Client → Web.Request → Web.Answer × ω
  dial : ω → String → Nat → Except DialFault Nat × ω
  tell : ω → Nat → Imap.Command → Imap.Answer × ω

namespace Network

/-- Hosts that are known without asking anyone. -/
def isKnownHost (server : String) : Bool :=
  server.toList.map Char.toLower = "localhost".toList ||
    (match Web.Host.read server.toList with
      | .ok host => host = server && Web.Host.endsInNumber (Web.Domain.splitOn '.' server.toList)
      | .error _ => false) ||
    (Web.Host.ipv6Groups? server.toList).isSome

def isolated : Network Unit where
  ask _ _ _ := (.unreached, ())
  dial _ server _ :=
    (.error (.tcp (if isKnownHost server then "Network is unreachable (os error 101)"
      else "failed to lookup address information: Temporary failure in name resolution")), ())
  tell _ _ _ := (⟨[], [], .gone⟩, ())

end Network

end MailRound
