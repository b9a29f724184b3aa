import MailRound.Poller.Worker

namespace MailRound.Poller

variable {ω φ : Type}

def modify (p : Poller ω φ) (f : Shared ω → Shared ω) : Poller ω φ :=
  { p with shared := f p.shared }

def note (p : Poller ω φ) (level : Log.Level) (text : String) : Poller ω φ :=
  p.modify (·.note .poller level text)

/-- Puts a signal into the channel of the worker with a serial number, if that worker is still
installed and the place is free. -/
def sendSignal (p : Poller ω φ) (serial : Nat) : Poller ω φ :=
  let refused := p.note .debug "Worker signal already pending"
  match p.worker with
  | some w =>
    if w.serial = serial ∧ !w.closed ∧ !w.signal then { p with worker := some { w with signal := true } }
    else refused
  | none => refused

/-- The worker that a caller sees when it looks. -/
def signalTarget (p : Poller ω φ) : Option Nat := p.worker.map (·.serial)

/-- Selects the next account, for a caller that has seen `target` as its worker. -/
def selectNext (p : Poller ω φ) (target : Option Nat) : Bool × Poller ω φ :=
  let p := p.modify fun s => { s with queue := s.queue.clear, cycle := s.cycle + 1 }
  match p.shared.cursor.advance with
  | (false, cursor) =>
    let p := p.modify fun s => { s with cursor := cursor }
    let p := p.note .info "No more accounts to process, cursor reset"
    (false, p.modify fun s => { s with pending := false, processing := false })
  | (true, cursor) =>
    let p := p.modify fun s => { s with cursor := cursor }
    match target with
    | none =>
      let p := p.note .warn
        "Account selected but the worker is not running; it will be polled on start()"
      (true, p.modify fun s => { s with pending := true })
    | some serial =>
      let p := p.modify fun s => { s with pending := false, processing := true }
      (true, p.sendSignal serial)

/-- Goes to the next account; false when there is none left. -/
def next (p : Poller ω φ) : Bool × Poller ω φ := p.selectNext p.signalTarget

def hasLiveWorker (p : Poller ω φ) : Bool :=
  match p.worker with
  | some w => !w.finished
  | none => false

/-- Installs a new worker, and resumes an account that was selected before. -/
def installWorker (p : Poller ω φ) (autoSelect : Bool) : Poller ω φ :=
  let serial := p.spawned
  let p := { p with worker := some (Worker.spawn serial), spawned := serial + 1 }
  let p := p.modify fun s => { s with status := .idle }
  let p :=
    if p.shared.pending && !autoSelect then
      let p := p.modify fun s => { s with pending := false }
      match p.shared.cursor.current? with
      | some account =>
        let p := p.note .info ("Resuming account selected before start: " ++ account.id)
        (p.modify fun s => { s with processing := true }).sendSignal serial
      | none => p
    else p
  p.note .info "Email poller worker thread started"

/-- Starts a worker unless one is running, and selects the next account if asked to. -/
def start (p : Poller ω φ) (autoSelect : Bool) : Poller ω φ :=
  if p.hasLiveWorker then p.note .debug "Email poller worker already running"
  else
    let p := p.installWorker autoSelect
    if autoSelect then p.next.2 else p

/-- The first section of a stop: takes the worker and tells it to stop. -/
def takeWorker (p : Poller ω φ) : Option (Worker φ) × Poller ω φ :=
  match p.worker with
  | none => (none, p)
  | some w =>
    let w := { w with stop := true, closed := true }
    (some w, { p with worker := none, leaving := w :: p.leaving })

/-- The second section of a stop: whatever is being polled is no longer wanted. -/
def retire (p : Poller ω φ) : Poller ω φ :=
  p.modify fun s => { s with cycle := s.cycle + 1, processing := false }

/-- The end of a stop: the worker has ended by itself, or is given up. -/
def release (p : Poller ω φ) (serial : Nat) : Poller ω φ :=
  let found := p.leaving.find? (·.serial = serial)
  let p := { p with leaving := p.leaving.filter (·.serial ≠ serial) }
  match found with
  | none => p
  | some w =>
    match w.phase with
    | .exited => p.note .info "Email poller worker thread stopped"
    | .panicked message =>
      p.note .error ("Email poller worker terminated abnormally: task N panicked with message " ++
        Text.Quoted.quote message)
    | _ =>
      let p := p.note .warn "Email poller worker did not exit within 5s, aborting it"
      p.modify fun s => { s with status := .stopped }

/-- Forgets selection, queue and delivered ids; the worker stays. -/
def reset (p : Poller ω φ) : Poller ω φ :=
  let cleared (s : Shared ω) : Shared ω :=
    { s with
      cursor := s.cursor.reset p.accounts
      queue := s.queue.clear
      delivered := s.delivered.clear
      pending := false
      cycle := s.cycle + 1 }
  let p := p.modify cleared
  let p := { p with worker := p.worker.map fun (w : Worker φ) => { w with signal := false } }
  let p := p.modify fun s => { s with processing := false }
  p.note .info "Email poller reset"

def getMessage (p : Poller ω φ) : Option Message × Poller ω φ :=
  let (m, q) := p.shared.queue.get?
  (m, p.modify fun s => { s with queue := q })

def getLastMessage (p : Poller ω φ) : Option Message × Poller ω φ :=
  let (m, q) := p.shared.queue.takeLast?
  (m, p.modify fun s => { s with queue := q })

def drain (p : Poller ω φ) : List Message × Poller ω φ :=
  let (ms, q) := p.shared.queue.takeAll
  (ms, p.modify fun s => { s with queue := q })

/-- Gives the poller up; a worker that is still there is cut off. -/
def drop (p : Poller ω φ) : Poller ω φ :=
  match p.worker with
  | none => p
  | some _ =>
    ({ p with worker := none }).note .warn "Email poller dropped without stop(), aborting worker"

end MailRound.Poller
