import MailRound.Mail.Message

namespace MailRound

/-- How many messages were ever put, and when the latest one was. -/
structure QueueStats where
  totalMessages : Nat
  lastMessageTime : Option Calendar.Instant
  deriving DecidableEq, Repr

namespace QueueStats

def empty : QueueStats := ⟨0, none⟩

def record : Json.Record QueueStats :=
  (Json.Record.required "total_messages" Json.Reader.nat64).map QueueStats.mk
    |>.app (Json.Record.nullable "last_message_time" Calendar.Instant.reader)

def reader : Json.Reader QueueStats := record.reader "QueueStats"

def toJson (s : QueueStats) : Json :=
  .object [("total_messages", .ofNat s.totalMessages),
    ("last_message_time", .ofOption Calendar.Instant.toJson s.lastMessageTime)]

end QueueStats

/-- Messages that wait to be taken, the oldest first. -/
structure Queue where
  messages : List Message
  stats : QueueStats
  deriving DecidableEq, Repr

namespace Queue

def new : Queue := ⟨[], .empty⟩

def put (q : Queue) (now : Calendar.Instant) (m : Message) : Queue :=
  ⟨q.messages ++ [m], ⟨q.stats.totalMessages + 1, some now⟩⟩

def get? (q : Queue) : Option Message × Queue :=
  match q.messages with
  | [] => (none, q)
  | m :: ms => (some m, { q with messages := ms })

/-- Drops what waits; the counters stay. -/
def clear (q : Queue) : Queue := { q with messages := [] }

/-- Takes everything and gives the newest message. -/
def takeLast? (q : Queue) : Option Message × Queue := (q.messages.getLast?, q.clear)

def takeAll (q : Queue) : List Message × Queue := (q.messages, q.clear)

def size (q : Queue) : Nat := q.messages.length

def isEmpty (q : Queue) : Bool := q.messages.isEmpty

end Queue

end MailRound
