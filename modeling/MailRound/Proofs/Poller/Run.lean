import MailRound.Poller.Script
import MailRound.Poller.Timeline

namespace MailRound.Poller

variable {ω φ : Type}

/-- The worker that is installed, or else the one that a stop waits for. -/
def active? (p : Poller ω φ) : Option (Worker φ) := p.worker.or p.leaving.head?

/-- The account whose polling a worker begins with its next step. -/
def Worker.begins? (s : Shared ω) (w : Worker φ) : Option Account :=
  match w.phase with
  | .idle => if !w.stop && w.signal then s.cursor.current? else none
  | _ => none

/-- The batch with which the next step of a worker comes back from a fetch, and its cycle. -/
def Worker.batch? (s : Shared ω) (w : Worker φ) : Option (Cycle × List Message) :=
  match w.phase with
  | .fetching c f =>
    match f.fate with
    | .returns (.ok batch) => if f.due ≤ s.now then some (c, batch) else none
    | _ => none
  | _ => none

/-- A poller, and the worker that an unfinished stop waits for with the moment it gives up. -/
structure System (ω φ : Type) where
  poller : Poller ω φ
  stopping : Option (Nat × Nat)

inductive Move where
  | start (autoSelect : Bool)
  | next
  | reset
  | getMessage
  | getLastMessage
  /-- A wait comes back because nothing is being polled. -/
  | waitEnds
  | waitTimesOut (limit : Nat)
  | stop
  /-- The stop comes back: its worker has ended or is given up. -/
  | stopEnds
  | work
  | pass (ms : Nat)
  | setClock (t : Calendar.Instant)
  /-- The program around the poller writes into the log. -/
  | tell (event : Log.Event)

namespace System

def new (roster : Roster) (defaults : Polling) (world : ω) (clock : Calendar.Instant) :
    System ω φ :=
  ⟨Poller.new roster defaults world clock, none⟩

abbrev shared (s : System ω φ) : Shared ω := s.poller.shared

def update (s : System ω φ) (f : Poller ω φ → Poller ω φ) : System ω φ :=
  { s with poller := f s.poller }

/-- The stop has nothing left to wait for. -/
def CanRelease (s : System ω φ) (serial deadline : Nat) : Prop :=
  (∀ w ∈ s.poller.leaving, w.serial = serial → w.finished) ∨ deadline ≤ s.shared.now

/-- One move. While a stop waits, its caller makes no other. -/
inductive Step (m : Mailboxes ω φ) : System ω φ → Move → System ω φ → Prop
  | start {s} (auto : Bool) (free : s.stopping = none) :
    Step m s (.start auto) (s.update (·.start auto))
  | next {s} (free : s.stopping = none) : Step m s .next (s.update (·.next.2))
  | reset {s} (free : s.stopping = none) : Step m s .reset (s.update (·.reset))
  | getMessage {s} (free : s.stopping = none) :
    Step m s .getMessage (s.update (·.getMessage.2))
  | getLastMessage {s} (free : s.stopping = none) :
    Step m s .getLastMessage (s.update (·.getLastMessage.2))
  | waitEnds {s} (free : s.stopping = none) (done : s.shared.processing = false) :
    Step m s .waitEnds s
  | waitTimesOut {s} (limit : Nat) (free : s.stopping = none)
    (busy : s.shared.processing = true) :
    Step m s (.waitTimesOut limit) (s.update (·.note .info
      ("wait time exceeded " ++ spanText limit ++ ", stopping wait")))
  | stopIdle {s} (free : s.stopping = none) (absent : s.poller.worker = none) :
    Step m s .stop s
  | stop {s} {w : Worker φ} (free : s.stopping = none) (found : s.poller.worker = some w) :
    Step m s .stop
      ⟨s.poller.takeWorker.2.retire, some (w.serial, s.shared.now + gracePeriod)⟩
  | stopEnds {s} {serial deadline : Nat} (waits : s.stopping = some (serial, deadline))
    (ended : s.CanRelease serial deadline) :
    Step m s .stopEnds ⟨s.poller.release serial, none⟩
  | work {s} {p : Poller ω φ} (goes : s.poller.stepWorker m = some p) :
    Step m s .work { s with poller := p }
  | pass {s} (ms : Nat) :
    Step m s (.pass ms) (s.update (·.modify fun sh => { sh with now := sh.now + ms }))
  | setClock {s} (t : Calendar.Instant) :
    Step m s (.setClock t) (s.update (·.modify fun sh => { sh with clock := t }))
  | tell {s} (event : Log.Event) :
    Step m s (.tell event) (s.update (·.modify fun sh => { sh with log := sh.log ++ [event] }))

end System

structure Transition (ω φ : Type) where
  move : Move
  before : System ω φ
  after : System ω φ

abbrev History (ω φ : Type) := List (Transition ω φ)

/-- The histories that lead from one state to another. -/
inductive System.Run (m : Mailboxes ω φ) (start : System ω φ) : History ω φ → System ω φ → Prop
  | nil : Run m start [] start
  | cons {h s move s'} (past : Run m start h s) (step : Step m s move s') :
    Run m start (⟨move, s, s'⟩ :: h) s'

namespace Transition

variable (t : Transition ω φ)

/-- The next account is selected, by itself or as part of a start. -/
def selects : Bool :=
  match t.move with
  | .next => true
  | .start auto => auto && !t.before.poller.hasLiveWorker
  | _ => false

/-- The queue is cleared: by a selection or a reset. -/
def clears : Bool :=
  match t.move with
  | .reset => true
  | _ => t.selects

/-- Whatever is being polled is no longer wanted: a selection, a reset, or a stop that finds a
worker. -/
def interrupts : Bool :=
  match t.move with
  | .stop => t.before.poller.worker.isSome
  | _ => t.clears

def returned? : Option Bool :=
  match t.move with
  | .next => some t.before.poller.next.1
  | .start _ => if t.selects then some (t.before.poller.installWorker true).next.1 else none
  | _ => none

def chosen? : Option Account :=
  if t.returned? = some true then t.after.shared.cursor.current? else none

/-- The account whose polling begins. -/
def begins? : Option Account :=
  match t.move with
  | .work => t.before.poller.active?.bind (·.begins? t.before.shared)
  | _ => none

def calls : List Call := t.after.shared.calls.drop t.before.shared.calls.length

def puts : List Message :=
  match t.move with
  | .work => t.after.shared.queue.messages.drop t.before.shared.queue.messages.length
  | _ => []

def handed : List Message :=
  match t.move with
  | .getMessage => t.before.poller.getMessage.1.toList
  | .getLastMessage => t.before.poller.getLastMessage.1.toList
  | _ => []

/-- A call to a mailbox takes the worker down. -/
def Panics : Prop :=
  t.move = .work ∧ ∃ w message, t.after.poller.active? = some w ∧ w.phase = .panicked message

end Transition

namespace History

/-- What the latest selection, reset or stop has left selected. -/
def selected? (h : History ω φ) : Option Account :=
  (h.find? (·.interrupts)).bind (·.chosen?)

/-- The accounts whose polling has begun since then, the newest first. -/
def begunSince (h : History ω φ) : List Account :=
  (h.takeWhile fun t => !t.interrupts).filterMap (·.begins?)

/-- The account of the newest cycle. -/
def running? (h : History ω φ) : Option Account := h.findSome? (·.begins?)

/-- The transitions since that cycle read its account. -/
def sinceBegun (h : History ω φ) : History ω φ := h.takeWhile (·.begins?.isNone)

/-- The newest cycle is one of an account, and no selection, reset or stop has come since. -/
def Undisturbed (h : History ω φ) (a : Account) : Prop :=
  h.running? = some a ∧ ∀ t ∈ h.sinceBegun, t.interrupts = false

def begun (h : History ω φ) : List Account := h.reverse.filterMap (·.begins?)

/-- The messages that were handed out, the oldest first. -/
def handed (h : History ω φ) : List Message := h.reverse.flatMap (·.handed)

def sinceCleared (h : History ω φ) : History ω φ := h.takeWhile fun t => !t.clears

def putsSince (h : History ω φ) : List Message := h.sinceCleared.reverse.flatMap (·.puts)

end History

theorem System.Run.append {m : Mailboxes ω φ} {start s s' : System ω φ} {h later : History ω φ}
    (past : Run m start h s) (further : Run m s later s') : Run m start (later ++ h) s' := by
  induction further with
  | nil => exact past
  | cons _ step ih => exact .cons ih step

theorem handed_cons (t : Transition ω φ) (h : History ω φ) :
    History.handed (t :: h) = h.handed ++ t.handed := by
  simp [History.handed]

theorem handed_cons_of_nil {t : Transition ω φ} {h : History ω φ} (none : t.handed = []) :
    History.handed (t :: h) = h.handed := by
  rw [handed_cons, none, List.append_nil]

theorem begun_cons (t : Transition ω φ) (h : History ω φ) :
    History.begun (t :: h) = h.begun ++ t.begins?.toList := by
  cases begins : t.begins? <;> simp [History.begun, begins]

theorem begun_cons_of_none {t : Transition ω φ} {h : History ω φ} (none : t.begins? = none) :
    History.begun (t :: h) = h.begun := by
  rw [begun_cons, none, Option.toList_none, List.append_nil]

/-- A message with nothing but an id. -/
def plainMessage (id : String) : Message :=
  ⟨id, none, none, none, [], [], [], none, none, none, [], .imap, none⟩

/-- A poller with one account and one attempt, which finds one message. -/
def System.single : System Script.Scripts Script.Step :=
  .new ⟨[⟨"box", "imap", true, none, [], .default, none⟩]⟩ ⟨1, 0, 10⟩
    [("box", [{ Script.Step.empty with batch := [plainMessage "1"] }])] ⟨0, 0⟩

end MailRound.Poller
