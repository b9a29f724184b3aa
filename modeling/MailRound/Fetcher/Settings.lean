import MailRound.Account.Basic
import MailRound.Text.Blank

namespace MailRound

structure FetcherSettings where
  provider : Provider
  members : Json.Members
  deriving Repr

namespace FetcherSettings

/-- A text that is there and not empty. -/
def text? (s : FetcherSettings) (key : String) : Option String :=
  ((s.members.get? key).bind Json.asText?).filter (· ≠ "")

def textOr (s : FetcherSettings) (key default : String) : String :=
  (s.text? key).getD default

def required (s : FetcherSettings) (key : String) : Outcome String :=
  match s.text? key with
  | some v => .ok v
  | none => .error (.config (s.provider.tag ++ " fetcher requires config." ++ key))

def invalid (s : FetcherSettings) (key : String) : Failure :=
  .config (s.provider.tag ++ " fetcher: invalid config." ++ key)

/-- A port, written as a number or as a text. -/
def portOr (s : FetcherSettings) (key : String) (default : Nat) : Outcome Nat :=
  match s.members.get? key with
  | none => .ok default
  | some .null => .ok default
  | some (.int n) => if 0 ≤ n ∧ n < 65536 then .ok n.toNat else .error (s.invalid key)
  | some (.str t) =>
    match Text.readUnsigned 65536 (Text.trim t).toList with
    | .ok n => .ok n
    | .error _ => .error (s.invalid key)
  | some _ => .error (s.invalid key)

/-- The texts of a list; anything else in it is passed over. -/
def texts? (s : FetcherSettings) (key : String) : Option (List String) :=
  ((s.members.get? key).bind Json.asItems?).map (·.filterMap Json.asText?)

end FetcherSettings

end MailRound
