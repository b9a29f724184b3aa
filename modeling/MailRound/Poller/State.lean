import MailRound.Account.Cursor
import MailRound.Account.Roster
import MailRound.Mail.Delivered
import MailRound.Mail.Queue
import MailRound.Poller.Mailboxes

namespace MailRound.Poller

/-- What is told about the worker from outside. -/
inductive Status where
  | idle
  | processing (id : String)
  | stopped
  deriving DecidableEq, Repr

/-- What callers and workers share. `cycle` grows with every selection, reset and stop, so that a
worker sees when its account is no longer wanted. -/
structure Shared (ω : Type) where
  defaults : Polling
  cursor : Cursor
  queue : Queue
  delivered : Delivered
  status : Status
  /-- An account was selected while there was no worker. -/
  pending : Bool
  /-- The selected account is still being polled. -/
  processing : Bool
  cycle : Nat
  world : ω
  /-- Milliseconds that have passed. -/
  now : Nat
  /-- What the clock on the wall shows. -/
  clock : Calendar.Instant
  calls : List Call
  log : List Log.Event

namespace Shared

variable {ω : Type}

def note (s : Shared ω) (origin : Log.Origin) (level : Log.Level) (text : String) : Shared ω :=
  { s with log := s.log ++ [⟨level, origin, text⟩] }

def record (s : Shared ω) (call : Call) : Shared ω := { s with calls := s.calls ++ [call] }

end Shared

/-- The polling of one account for one selection. -/
structure Cycle where
  account : Account
  generation : Nat
  /-- Attempts that have ended. -/
  attempts : Nat

/-- A call that has not come back yet. -/
structure Flight (φ α : Type) where
  fetcher : φ
  due : Nat
  fate : Fate α

/-- What an attempt put into the queue, and what it has to mark as read. -/
structure Enqueued where
  processed : Nat
  toMark : List String
  superseded : Bool
  deriving DecidableEq, Repr

/-- How an attempt went. -/
inductive Attempt where
  | done
  | superseded
  | failed (why : Failure)
  deriving DecidableEq, Repr

/-- Where a worker waits. -/
inductive Phase (φ : Type) where
  | fresh
  | idle
  | connecting (cycle : Cycle) (flight : Flight φ Unit)
  | fetching (cycle : Cycle) (flight : Flight φ (List Message))
  | marking (cycle : Cycle) (flight : Flight φ Unit) (batch : Enqueued)
  | disconnecting (cycle : Cycle) (flight : Flight φ Unit) (attempt : Attempt)
  | pausing (cycle : Cycle) (due : Nat)
  | exited
  | panicked (message : String)

/-- A worker with the one place of its signal channel. -/
structure Worker (φ : Type) where
  serial : Nat
  phase : Phase φ
  signal : Bool
  closed : Bool
  stop : Bool

namespace Worker

variable {φ : Type}

def spawn (serial : Nat) : Worker φ := ⟨serial, .fresh, false, false, false⟩

def finished (w : Worker φ) : Bool :=
  match w.phase with
  | .exited => true
  | .panicked _ => true
  | _ => false

/-- When the worker goes on by itself, if it waits for the time. -/
def due? (w : Worker φ) : Option Nat :=
  match w.phase with
  | .connecting _ f => some f.due
  | .fetching _ f => some f.due
  | .marking _ f _ => some f.due
  | .disconnecting _ f _ => some f.due
  | .pausing _ due => some due
  | _ => none

def cycle? (w : Worker φ) : Option Cycle :=
  match w.phase with
  | .connecting c _ => some c
  | .fetching c _ => some c
  | .marking c _ _ => some c
  | .disconnecting c _ _ => some c
  | .pausing c _ => some c
  | _ => none

end Worker

end MailRound.Poller

namespace MailRound

/-- A poller: all accounts, the shared state, the worker that is installed, and workers that a
stop has taken and waits for. -/
structure Poller (ω φ : Type) where
  accounts : List Account
  shared : Poller.Shared ω
  worker : Option (Poller.Worker φ)
  leaving : List (Poller.Worker φ)
  spawned : Nat

namespace Poller

variable {ω φ : Type}

def new (roster : Roster) (defaults : Polling) (world : ω) (clock : Calendar.Instant) :
    Poller ω φ :=
  let cursor := Cursor.new roster.accounts
  let shared : Shared ω :=
    ⟨defaults, cursor, .new, .empty, .idle, false, false, 0, world, 0, clock, [], []⟩
  { accounts := roster.accounts
    shared := shared.note .poller .info ("Email poller created with " ++ Text.decimal cursor.size ++
      " enabled account(s) out of " ++ Text.decimal roster.accounts.length)
    worker := none
    leaving := []
    spawned := 0 }

end Poller

end MailRound
