import MailRound.Poller.State
import MailRound.Text.Quoted

namespace MailRound.Poller

variable {ω φ : Type}

namespace Shared

def inform (s : Shared ω) (level : Log.Level) (text : String) : Shared ω :=
  s.note .worker level text

/-- A message without an id cannot be told apart from others. -/
def rejects (m : Message) : Bool := (Text.trim m.id).isEmpty

def announce (s : Shared ω) (account : Account) (m : Message) : Shared ω :=
  let s := s.inform .info ("[" ++ account.id ++ " (" ++ m.accountEmail.getD "" ++
    ")] Received Email: ID='" ++ m.id ++ "', From='" ++ m.sender.getD "" ++ "', Subject='" ++
    m.subject.getD "" ++ "'")
  if m.attachments.isEmpty then s
  else s.inform .info ("  Attachments: " ++ Text.Quoted.quoteList (m.attachments.map (·.filename)))

/-- Puts a new message into the queue; one that was seen or has no id is passed over. -/
def deliver (account : Account) (acc : Shared ω × Enqueued) (m : Message) : Shared ω × Enqueued :=
  let (s, e) := acc
  if s.delivered.seen m.id then
    (s.inform .debug ("[" ++ account.id ++ "] Skipping duplicate email: " ++ m.id), e)
  else if rejects m then
    let why := Failure.processing ("message without provider id (subject: " ++
      Text.Quoted.quoteOption m.subject ++ ")")
    (s.inform .error ("[" ++ account.id ++ "] Error processing email: " ++ why.message), e)
  else
    let s := s.announce account m
    ({ s with delivered := (s.delivered.mark m.id).2, queue := s.queue.put s.clock m },
      { e with
        processed := e.processed + 1
        toMark := if account.criteria.markAsRead then e.toMark ++ [m.id] else e.toMark })

/-- Takes a whole batch, unless the cycle it was fetched for is over. -/
def enqueueBatch (s : Shared ω) (account : Account) (generation : Nat) (batch : List Message) :
    Shared ω × Enqueued :=
  if s.cycle = generation then batch.foldl (deliver account) (s, ⟨0, [], false⟩)
  else (s, ⟨0, [], true⟩)

/-- Makes a call: it is recorded when it starts, and comes back after its delay. -/
def launch {α : Type} (s : Shared ω) (call : Call) (r : Reply ω φ α) : Shared ω × Flight φ α :=
  let s := s.record call
  ({ s with world := r.world, log := s.log ++ r.log }, ⟨r.fetcher, s.now + r.delay, r.fate⟩)

end Shared

namespace Cycle

def polling (c : Cycle) (s : Shared ω) : Polling := c.account.effectivePolling s.defaults

def label (c : Cycle) : String := "[" ++ c.account.id ++ "]"

/-- The criteria of an account with the number of messages that are asked for. -/
def criteria (c : Cycle) (s : Shared ω) : Criteria :=
  { c.account.criteria with maxEmails := some (c.polling s).maxEmailsPerPoll }

end Cycle

namespace Worker

abbrev Step (ω φ : Type) := Shared ω × Worker φ

/-- The worker goes back to waiting; the flag stays up when the next selection is there already. -/
def finishCycle (s : Shared ω) (w : Worker φ) : Step ω φ :=
  ({ s with
      status := .idle
      processing := if !w.signal && !w.stop then false else s.processing },
    { w with phase := .idle })

/-- What follows an attempt: the end of the cycle, or a pause before the next attempt. -/
def afterAttempt (s : Shared ω) (w : Worker φ) (c : Cycle) (result : Attempt) : Step ω φ :=
  let more (s : Shared ω) : Step ω φ :=
    let c := { c with attempts := c.attempts + 1 }
    let p := c.polling s
    if c.attempts < p.maxPollCount then
      (s.inform .debug (c.label ++ " Waiting " ++ Text.decimal p.pollInterval ++
          " seconds before next poll..."),
        { w with phase := .pausing c (s.now + p.pollInterval * 1000) })
    else finishCycle s w
  match result with
  | .done => more s
  | .superseded =>
    finishCycle (s.inform .info (c.label ++ " Account cycle superseded, discarding fetched batch")) w
  | .failed (.unknownProvider tag) =>
    finishCycle (s.inform .error (c.label ++ " Unknown fetcher type: " ++ tag ++ ". Skipping.")) w
  | .failed why => more (s.inform .error (c.label ++ " Error polling account: " ++ why.message))

/-- Begins an attempt, unless the cycle is over. -/
def beginAttempt (m : Mailboxes ω φ) (s : Shared ω) (w : Worker φ) (c : Cycle) : Step ω φ :=
  let most := (c.polling s).maxPollCount
  if most ≤ c.attempts ∨ w.stop then finishCycle s w
  else if s.cycle ≠ c.generation then
    finishCycle (s.inform .info (c.label ++ " Account cycle superseded, abandoning poll loop")) w
  else
    let s := s.inform .info (c.label ++ " Attempting to fetch emails (attempt " ++
      Text.decimal (c.attempts + 1) ++ "/" ++ Text.decimal most ++ ")...")
    let s := s.record (.create c.account)
    match m.create s.world c.account with
    | (world, log, .error why) =>
      afterAttempt { s with world := world, log := s.log ++ log } w c (.failed why)
    | (world, log, .ok fetcher) =>
      let s := { s with world := world, log := s.log ++ log }
      let (s, flight) := s.launch (.connect c.account) (m.connect s.world fetcher)
      (s, { w with phase := .connecting c flight })

def beginDisconnect (m : Mailboxes ω φ) (s : Shared ω) (w : Worker φ) (c : Cycle) (fetcher : φ)
    (result : Attempt) : Step ω φ :=
  let (s, flight) := s.launch (.disconnect c.account) (m.disconnect s.world fetcher)
  (s, { w with phase := .disconnecting c flight result })

/-- A signal has come: the account under the cursor is polled. -/
def beginCycle (m : Mailboxes ω φ) (s : Shared ω) (w : Worker φ) : Step ω φ :=
  match s.cursor.current? with
  | none =>
    finishCycle (s.inform .warn "No valid account to process, resetting worker state.") w
  | some account =>
    let s := { s with status := .processing account.id }
    beginAttempt m (s.inform .info ("Processing account: " ++ account.displayEmail)) w
      ⟨account, s.cycle, 0⟩

def exit (s : Shared ω) (w : Worker φ) : Step ω φ :=
  ({ s with status := .stopped }.inform .info "Email poller worker exited",
    { w with phase := .exited })

def afterConnect (m : Mailboxes ω φ) (s : Shared ω) (w : Worker φ) (c : Cycle) (fetcher : φ) :
    Outcome Unit → Step ω φ
  | .error why => beginDisconnect m s w c fetcher (.failed why)
  | .ok () =>
    let criteria := c.criteria s
    let (s, flight) := s.launch (.fetch c.account criteria) (m.fetch s.world fetcher criteria)
    (s, { w with phase := .fetching c flight })

def processedNote (s : Shared ω) (c : Cycle) (e : Enqueued) : Shared ω :=
  s.inform .info (c.label ++ " Processed " ++ Text.decimal e.processed ++ " new emails.")

def afterFetch (m : Mailboxes ω φ) (s : Shared ω) (w : Worker φ) (c : Cycle) (fetcher : φ) :
    Outcome (List Message) → Step ω φ
  | .error why => beginDisconnect m s w c fetcher (.failed why)
  | .ok [] =>
    beginDisconnect m (s.inform .info (c.label ++ " No new emails found.")) w c fetcher .done
  | .ok batch =>
    let s := s.inform .info (c.label ++ " Fetched " ++ Text.decimal batch.length ++ " new email(s).")
    let (s, e) := s.enqueueBatch c.account c.generation batch
    if e.superseded then beginDisconnect m s w c fetcher .superseded
    else if e.toMark = [] then beginDisconnect m (processedNote s c e) w c fetcher .done
    else
      let (s, flight) := s.launch (.markRead c.account e.toMark) (m.markRead s.world fetcher e.toMark)
      (s, { w with phase := .marking c flight e })

def afterMark (m : Mailboxes ω φ) (s : Shared ω) (w : Worker φ) (c : Cycle) (fetcher : φ)
    (e : Enqueued) (result : Outcome Unit) : Step ω φ :=
  let s := match result with
    | .ok () => s.inform .info (c.label ++ " Marked " ++ Text.decimal e.toMark.length ++
        " emails as read.")
    | .error why => s.inform .error (c.label ++ " Error marking emails as read: " ++ why.message)
  beginDisconnect m (processedNote s c e) w c fetcher .done

def die (s : Shared ω) (w : Worker φ) (message : String) : Step ω φ :=
  (s, { w with phase := .panicked message })

/-- A call that has come back goes on with its result, or takes the worker down. -/
def land {α : Type} (s : Shared ω) (w : Worker φ) (f : Flight φ α)
    (next : φ → Outcome α → Step ω φ) : Option (Step ω φ) :=
  if f.due ≤ s.now then
    match f.fate with
    | .returns result => some (next f.fetcher result)
    | .panics message => some (die s w message)
  else none

/-- One step of a worker; none while it has to wait. -/
def step (m : Mailboxes ω φ) (s : Shared ω) (w : Worker φ) : Option (Step ω φ) :=
  match w.phase with
  | .fresh =>
    some (s.inform .debug "Email poller worker entering idle state", { w with phase := .idle })
  | .idle =>
    if w.stop then some (exit s w)
    else if w.signal then some (beginCycle m s { w with signal := false })
    else if w.closed then some (exit s w)
    else none
  | .connecting c f => land s w f fun fetcher r => afterConnect m s w c fetcher r
  | .fetching c f => land s w f fun fetcher r => afterFetch m s w c fetcher r
  | .marking c f e => land s w f fun fetcher r => afterMark m s w c fetcher e r
  | .disconnecting c f result => land s w f fun _ _ => afterAttempt s w c result
  | .pausing c due =>
    if w.stop ∨ s.cycle ≠ c.generation then some (finishCycle s w)
    else if due ≤ s.now then some (beginAttempt m s w c)
    else none
  | .exited => none
  | .panicked _ => none

end Worker

end MailRound.Poller
