import MailRound.Account.Basic
import MailRound.Calendar.Reading
import MailRound.Text.Base64

namespace MailRound

/-- The search of an IMAP mailbox: the account's own, else all since a day, else the unseen. -/
def Criteria.imapSearch (c : Criteria) : Outcome String :=
  match c.text? "search_string" with
  | some s => .ok s
  | none =>
    match c.text? "since_date" with
    | none => .ok "UNSEEN"
    | some since =>
      match Calendar.Date.read since with
      | .ok d => .ok ("(SINCE " ++ d.searchText ++ ")")
      | .error _ => .error (.fetch ("since_date must be YYYY-MM-DD, got " ++ since))

def Criteria.gmailQuery (c : Criteria) : String :=
  (c.text? "query_string").getD "is:unread"

def Criteria.graphFilter (c : Criteria) : String :=
  match c.text? "graph_filter_string" with
  | some f => f
  | none =>
    match c.text? "since_date" with
    | some since => "isRead eq false and receivedDateTime ge " ++ since
    | none => "isRead eq false"

/-- The greatest `limit` numbers in growing order. -/
def newestUids (uids : List Nat) (limit : Option Nat) : List Nat :=
  let sorted := uids.mergeSort (· ≤ ·)
  match limit with
  | none => sorted
  | some n => sorted.drop (sorted.length - n)

def dropPadding (cs : List Char) : List Char :=
  (cs.reverse.dropWhile (· == '=')).reverse

/-- The bytes of a raw message; padding at the end may be there or not. -/
def decodeRaw (raw : String) : Outcome Bytes :=
  let body := String.ofList (dropPadding raw.toList)
  match Text.Base64.decode Text.Base64.urlSafe (Text.Utf8.encode body) with
  | .ok bytes => .ok bytes
  | .error e => .error (.processing ("invalid base64url payload: " ++ e.message))

end MailRound
