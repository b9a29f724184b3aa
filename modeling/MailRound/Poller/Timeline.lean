import MailRound.Poller.Caller

namespace MailRound.Poller

variable {ω φ : Type}

def stepInstalled (m : Mailboxes ω φ) (p : Poller ω φ) : Option (Poller ω φ) :=
  match p.worker with
  | none => none
  | some w => (w.step m p.shared).map fun (s, w) => { p with shared := s, worker := some w }

/-- One step of the first of some workers that can go on. -/
def stepFirst (m : Mailboxes ω φ) (s : Shared ω) :
    List (Worker φ) → Option (Shared ω × List (Worker φ))
  | [] => none
  | w :: ws =>
    match w.step m s with
    | some (s, w) => some (s, w :: ws)
    | none => (stepFirst m s ws).map fun (s, ws) => (s, w :: ws)

/-- One step of any worker. -/
def stepWorker (m : Mailboxes ω φ) (p : Poller ω φ) : Option (Poller ω φ) :=
  match p.stepInstalled m with
  | some p => some p
  | none => (stepFirst m p.shared p.leaving).map fun (s, ws) => { p with shared := s, leaving := ws }

def earliest : List Nat → Option Nat
  | [] => none
  | t :: ts => match earliest ts with
    | none => some t
    | some u => some (min t u)

/-- The next moment at which a worker goes on by itself. -/
def nextDue (p : Poller ω φ) : Option Nat :=
  earliest ((p.worker.toList ++ p.leaving).filterMap Worker.due?)

/-- Lets workers run, and time pass up to `deadline`, until nothing can go on and `done` holds. -/
def runUntil (m : Mailboxes ω φ) (done : Poller ω φ → Bool) (deadline : Nat) :
    Nat → Poller ω φ → Poller ω φ
  | 0, p => p
  | fuel + 1, p =>
    match p.stepWorker m with
    | some p => runUntil m done deadline fuel p
    | none =>
      if done p ∨ deadline ≤ p.shared.now then p
      else
        let moment := match p.nextDue with
          | some t => min t deadline
          | none => deadline
        runUntil m done deadline fuel (p.modify fun s => { s with now := max moment s.now })

/-- More steps than a run of the workers can take without a new selection: each attempt has at
most six, and there is at most one cycle running and one to come. -/
def stepBound (p : Poller ω φ) : Nat :=
  let most := (p.accounts.map fun a => (a.effectivePolling p.shared.defaults).maxPollCount).foldl max 0
  40 * (most + 2) * (p.leaving.length + 2)

def run (m : Mailboxes ω φ) (done : Poller ω φ → Bool) (deadline : Nat) (p : Poller ω φ) :
    Poller ω φ :=
  runUntil m done deadline p.stepBound p

/-- How long a wait without a limit is followed. -/
def patience : Nat := 1000000000

/-- A span of time the way it is written in the log: in seconds, or below one in milliseconds. -/
def spanText (ms : Nat) : String :=
  let digits := (Text.padded 3 (ms % 1000)).toList
  let fraction := (digits.reverse.dropWhile (· == '0')).reverse
  if ms = 0 then "0ns"
  else if ms < 1000 then Text.decimal ms ++ "ms"
  else if fraction.isEmpty then Text.decimal (ms / 1000) ++ "s"
  else Text.decimal (ms / 1000) ++ "." ++ String.ofList fraction ++ "s"

/-- Waits until the selected account is done, for so many milliseconds at most. -/
def wait (m : Mailboxes ω φ) (limit : Nat) (p : Poller ω φ) : Bool × Poller ω φ :=
  if !p.shared.processing then (true, p)
  else
    let p := p.run m (fun p => !p.shared.processing) (p.shared.now + limit)
    if p.shared.processing then
      (false, p.note .info ("wait time exceeded " ++ spanText limit ++ ", stopping wait"))
    else (true, p)

/-- Waits without a limit; false when that would take longer than anyone looks. -/
def waitForever (m : Mailboxes ω φ) (p : Poller ω φ) : Bool × Poller ω φ :=
  if !p.shared.processing then (true, p)
  else
    let p := p.run m (fun p => !p.shared.processing) (p.shared.now + patience)
    (!p.shared.processing, p)

def sleep (m : Mailboxes ω φ) (ms : Nat) (p : Poller ω φ) : Poller ω φ :=
  p.run m (fun _ => false) (p.shared.now + ms)

def gracePeriod : Nat := 5000

def stop (m : Mailboxes ω φ) (p : Poller ω φ) : Poller ω φ :=
  match p.takeWorker with
  | (none, p) => p
  | (some w, p) =>
    let ended (p : Poller ω φ) : Bool :=
      p.leaving.all fun v => v.serial ≠ w.serial || v.finished
    let p := p.retire
    (p.run m ended (p.shared.now + gracePeriod)).release w.serial

end MailRound.Poller
