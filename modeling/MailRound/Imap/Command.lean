import MailRound.Text.Numeral
import MailRound.Text.Quoted
import MailRound.Text.Utf8

namespace MailRound.Imap

inductive Command where
  | login (user password : String)
  | authenticate (user token : String)
  | select (mailbox : String)
  | search (query : String)
  | fetch (uid : Nat)
  | store (ids : String)
  | logout
  deriving DecidableEq, Repr

/-- A text between double quotes; quotes and backslashes inside are marked. -/
def quoted (s : String) : String :=
  String.ofList ('"' :: (s.toList.flatMap fun c =>
    if c = '"' ∨ c = '\\' then ['\\', c] else [c]) ++ ['"'])

def tokenProof (user token : String) : String :=
  let mark := String.ofList [Char.ofNat 1]
  "user=" ++ user ++ mark ++ "auth=Bearer " ++ token ++ mark ++ mark

def Command.lines : Command → List String
  | .login user password => ["LOGIN " ++ quoted user ++ " " ++ quoted password]
  | .authenticate user token => ["AUTHENTICATE XOAUTH2", tokenProof user token]
  | .select mailbox => ["SELECT " ++ quoted mailbox]
  | .search query => ["UID SEARCH " ++ query]
  | .fetch uid => ["UID FETCH " ++ Text.decimal uid ++ " RFC822"]
  | .store ids => ["UID STORE " ++ ids ++ " +FLAGS (\\Seen)"]
  | .logout => ["LOGOUT"]

/-- The first character that no argument may hold, line feeds before carriage returns. -/
def breaker? (s : String) : Option Char :=
  if s.toList.contains '\n' then some '\n'
  else if s.toList.contains '\r' then some '\r'
  else none

/-- The arguments that have to stand on one line. -/
def Command.arguments : Command → List String
  | .login user password => [user, password]
  | .select mailbox => [mailbox]
  | _ => []

end MailRound.Imap
