import MailRound.Proofs.Poller.Agreement

namespace MailRound.Poller

variable {ω φ : Type}

/-- The last section of a reset, for a caller that has seen `seen` as its worker. -/
def forget (p : Poller ω φ) (seen : Option Nat) : Poller ω φ :=
  let drained (w : Worker φ) : Worker φ :=
    if seen = some w.serial then { w with signal := false } else w
  ({ p with
    worker := p.worker.map drained
    shared := { p.shared with
      cursor := p.shared.cursor.reset p.accounts
      queue := p.shared.queue.clear
      delivered := p.shared.delivered.clear
      pending := false
      cycle := p.shared.cycle + 1
      processing := false } }).note .info "Email poller reset"

theorem reset_eq_forget (p : Poller ω φ) : p.reset = p.forget p.signalTarget := by
  cases here : p.worker with
  | none => simp [reset, forget, modify, note, here]
  | some w => simp [reset, forget, modify, note, here, signalTarget]

/-- How a selection ends, for a caller that has seen `seen` as its worker. -/
inductive Choice (p : Poller ω φ) (seen : Option Nat) : Poller ω φ → Prop
  | exhausted (log : List Log.Event) (past : p.shared.cursor.advance.2.current? = none) :
    Choice p seen { p with
      shared := { p.advanced log with pending := false, processing := false } }
  | deferred (log : List Log.Event) (unseen : seen = none) :
    Choice p seen { p with shared := { p.advanced log with pending := true } }
  | signalled (log : List Log.Event) (w : Worker φ) (installed : p.worker = some w)
    (same : seen = some w.serial) :
    Choice p seen { p with
      shared := { p.advanced log with pending := false, processing := true }
      worker := some { w with signal := true } }
  /-- The worker that was seen takes no signals any more. -/
  | missed (log : List Log.Event) (serial : Nat) (saw : seen = some serial)
    (gone : ∀ w, p.worker = some w → w.closed = false → w.serial ≠ serial) :
    Choice p seen { p with
      shared := { p.advanced log with pending := false, processing := true } }

theorem sendSignal_cases (p : Poller ω φ) (serial : Nat) :
    (∃ log w, p.worker = some w ∧ w.serial = serial ∧ p.sendSignal serial =
      { p with
        shared := { p.shared with log := log }
        worker := some { w with signal := true } }) ∨
      (∀ w, p.worker = some w → w.closed = false → w.serial ≠ serial) ∧ ∃ log,
        p.sendSignal serial = { p with shared := { p.shared with log := log } } := by
  cases here : p.worker with
  | none =>
    refine .inr ⟨by simp, p.shared.log ++ [⟨.debug, .poller,
      "Worker signal already pending"⟩], ?_⟩
    simp [sendSignal, here, note, modify, Shared.note]
  | some w =>
    by_cases same : w.serial = serial
    · subst same
      cases closed : w.closed with
      | false =>
        obtain ⟨log, sent⟩ := sendSignal_eq here closed
        exact .inl ⟨log, w, rfl, rfl, sent⟩
      | true =>
        refine .inr ⟨by simp [closed], p.shared.log ++ [⟨.debug, .poller,
          "Worker signal already pending"⟩], ?_⟩
        simp [sendSignal, here, closed, note, modify, Shared.note]
    · refine .inr ⟨by simp [same], p.shared.log ++ [⟨.debug, .poller,
        "Worker signal already pending"⟩], ?_⟩
      simp [sendSignal, here, same, note, modify, Shared.note]

theorem selectNext_choice (p : Poller ω φ) (seen : Option Nat) :
    Choice p seen (p.selectNext seen).2 := by
  have cases := p.shared.cursor.advance_cases
  cases advance : p.shared.cursor.advance with
  | mk more cursor =>
  have moved : p.shared.cursor.advance.2 = cursor := by rw [advance]
  rw [advance] at cases
  obtain ⟨rfl, -⟩ | ⟨rfl, past⟩ := cases
  · cases seen with
    | none =>
      have h : (p.selectNext none).2 = { p with shared := { p.advanced (p.shared.log ++ [⟨.warn,
          .poller,
          "Account selected but the worker is not running; it will be polled on start()"⟩]) with
          pending := true } } := by
        simp only [selectNext, modify, advance, advanced]
        rfl
      rw [h]
      exact .deferred _ rfl
    | some serial =>
      have h : (p.selectNext (some serial)).2 = sendSignal { p with
          shared := { p.advanced p.shared.log with pending := false, processing := true } }
          serial := by
        simp only [selectNext, modify, advance, advanced]
      rw [h]
      obtain ⟨log, w, here, same, sent⟩ | ⟨gone, log, lost⟩ := sendSignal_cases { p with
        shared := { p.advanced p.shared.log with pending := false, processing := true } } serial
      · rw [sent]
        exact .signalled log w here (congrArg some same.symm)
      · rw [lost]
        exact .missed log serial rfl gone
  · have h : (p.selectNext seen).2 = { p with shared := { p.advanced (p.shared.log ++ [⟨.info,
        .poller, "No more accounts to process, cursor reset"⟩]) with
        pending := false, processing := false } } := by
      simp only [selectNext, modify, advance, advanced]
      rfl
    rw [h]
    exact .exhausted _ (moved ▸ past)

/-- How a new worker begins: its caller goes on to select, it has nothing to do, or an account that
was selected before is resumed. -/
inductive Manning (p : Poller ω φ) : Bool → Poller ω φ → Prop
  | selects (log : List Log.Event) : Manning p true (p.manned log)
  | waits (log : List Log.Event) : Manning p false { p.manned log with
      shared := { (p.manned log).shared with pending := false } }
  | resumes (log : List Log.Event) : Manning p false { p.manned log with
      shared := { (p.manned log).shared with pending := false, processing := true }
      worker := some { Worker.spawn p.spawned with signal := true } }

theorem installWorker_manning (p : Poller ω φ) (auto : Bool) :
    Manning p auto (p.installWorker auto) := by
  cases auto with
  | true =>
    obtain ⟨log, installed⟩ := installWorker_auto p
    exact installed ▸ .selects log
  | false =>
    by_cases nothing : p.shared.pending = false ∨ p.shared.cursor.current? = none
    · obtain ⟨log, installed⟩ := installWorker_waits nothing
      exact installed ▸ .waits log
    · obtain ⟨pending, selected⟩ : p.shared.pending = true ∧ p.shared.cursor.current? ≠ none := by
        simpa using nothing
      obtain ⟨account, chosen⟩ := Option.ne_none_iff_exists'.1 selected
      obtain ⟨log, installed⟩ := installWorker_resumes pending chosen
      exact installed ▸ .resumes log

theorem start_of_live {p : Poller ω φ} (live : p.hasLiveWorker = true) (auto : Bool) :
    p.start auto = p.note .debug "Email poller worker already running" := by
  simp [start, live]

theorem takeWorker_eq {p : Poller ω φ} {w : Worker φ} (found : p.worker = some w) :
    p.takeWorker.2 = { p with
      worker := none
      leaving := { w with stop := true, closed := true } :: p.leaving } := by
  simp [takeWorker, found]

/-- The section that a call comes to next. -/
inductive Section where
  /-- A start has installed a worker and goes on to select. -/
  | look
  | select (seen : Option Nat)
  | forget (seen : Option Nat)
  | retire (serial : Nat)
  | join (serial deadline : Nat)

/-- A poller and the calls that have begun and not come back. -/
structure Crowd (ω φ : Type) where
  poller : Poller ω φ
  underway : List Section

inductive Act where
  | look
  | select (seen : Option Nat)
  | start (autoSelect : Bool)
  | reset
  | forget (seen : Option Nat)
  | stop
  | retire (serial : Nat)
  | release (serial : Nat)
  | getMessage
  | getLastMessage
  | waitEnds
  | waitTimesOut (limit : Nat)
  | work (serial : Nat)
  | pass (ms : Nat)
  | setClock (t : Calendar.Instant)
  | tell (event : Log.Event)

inductive Stepped (p : Poller ω φ) (w : Worker φ) (r : Worker.Step ω φ) : Poller ω φ → Prop
  | installed (here : p.worker = some w) :
    Stepped p w r { p with shared := r.1, worker := some r.2 }
  | leaving (before after : List (Worker φ)) (there : p.leaving = before ++ w :: after) :
    Stepped p w r { p with shared := r.1, leaving := before ++ r.2 :: after }

theorem Stepped.shared_eq {p p' : Poller ω φ} {w : Worker φ} {r : Worker.Step ω φ}
    (place : Stepped p w r p') : p'.shared = r.1 := by
  cases place <;> rfl

namespace Crowd

def new (roster : Roster) (defaults : Polling) (world : ω) (clock : Calendar.Instant) :
    Crowd ω φ :=
  ⟨Poller.new roster defaults world clock, []⟩

abbrev shared (s : Crowd ω φ) : Shared ω := s.poller.shared

def update (s : Crowd ω φ) (f : Poller ω φ → Poller ω φ) : Crowd ω φ :=
  { s with poller := f s.poller }

/-- One section of a call, one step of a worker, or the passing of time. -/
inductive Step (m : Mailboxes ω φ) : Crowd ω φ → Act → Crowd ω φ → Prop
  | next {s} :
    Step m s .look { s with underway := .select s.poller.signalTarget :: s.underway }
  | look {s} (before after : List Section) (here : s.underway = before ++ .look :: after) :
    Step m s .look { s with underway := before ++ .select s.poller.signalTarget :: after }
  | select {s} (seen : Option Nat) (before after : List Section)
    (here : s.underway = before ++ .select seen :: after) :
    Step m s (.select seen) ⟨(s.poller.selectNext seen).2, before ++ after⟩
  | startRunning {s} (auto : Bool) (live : s.poller.hasLiveWorker = true) :
    Step m s (.start auto) (s.update (·.start auto))
  | start {s} (auto : Bool) (dead : s.poller.hasLiveWorker = false) :
    Step m s (.start auto) ⟨s.poller.installWorker auto,
      if auto then .look :: s.underway else s.underway⟩
  | reset {s} :
    Step m s .reset { s with underway := .forget s.poller.signalTarget :: s.underway }
  | forget {s} (seen : Option Nat) (before after : List Section)
    (here : s.underway = before ++ .forget seen :: after) :
    Step m s (.forget seen) ⟨s.poller.forget seen, before ++ after⟩
  | stopIdle {s} (absent : s.poller.worker = none) : Step m s .stop s
  | stop {s} (w : Worker φ) (found : s.poller.worker = some w) :
    Step m s .stop ⟨s.poller.takeWorker.2, .retire w.serial :: s.underway⟩
  | retire {s} (serial : Nat) (before after : List Section)
    (here : s.underway = before ++ .retire serial :: after) :
    Step m s (.retire serial)
      ⟨s.poller.retire, before ++ .join serial (s.shared.now + gracePeriod) :: after⟩
  | release {s} (serial deadline : Nat) (before after : List Section)
    (here : s.underway = before ++ .join serial deadline :: after)
    (ended : (∀ w ∈ s.poller.leaving, w.serial = serial → w.finished) ∨
      deadline ≤ s.shared.now) :
    Step m s (.release serial) ⟨s.poller.release serial, before ++ after⟩
  | getMessage {s} : Step m s .getMessage (s.update (·.getMessage.2))
  | getLastMessage {s} : Step m s .getLastMessage (s.update (·.getLastMessage.2))
  | waitEnds {s} (done : s.shared.processing = false) : Step m s .waitEnds s
  | waitTimesOut {s} (limit : Nat) (busy : s.shared.processing = true) :
    Step m s (.waitTimesOut limit) (s.update (·.note .info
      ("wait time exceeded " ++ spanText limit ++ ", stopping wait")))
  | work {s} (w : Worker φ) (r : Worker.Step ω φ) {p : Poller ω φ}
    (goes : w.step m s.shared = some r) (place : Stepped s.poller w r p) :
    Step m s (.work w.serial) { s with poller := p }
  | pass {s} (ms : Nat) :
    Step m s (.pass ms) (s.update (·.modify fun sh => { sh with now := sh.now + ms }))
  | setClock {s} (t : Calendar.Instant) :
    Step m s (.setClock t) (s.update (·.modify fun sh => { sh with clock := t }))
  | tell {s} (event : Log.Event) :
    Step m s (.tell event) (s.update (·.modify fun sh => { sh with log := sh.log ++ [event] }))

theorem Step.worked {m : Mailboxes ω φ} {s : Crowd ω φ} {p : Poller ω φ} {serial : Nat}
    (here : s.poller.signalTarget = some serial) (goes : s.poller.stepInstalled m = some p) :
    Step m s (.work serial) { s with poller := p } := by
  unfold stepInstalled at goes
  split at goes
  · cases goes
  · rename_i w installed
    obtain ⟨r, steps, rfl⟩ := Option.map_eq_some_iff.1 goes
    obtain rfl : w.serial = serial := by simpa [signalTarget, installed] using here
    exact .work w r steps (.installed installed)

/-- What has happened, with the states before and after. -/
structure Entry (ω φ : Type) where
  act : Act
  before : Crowd ω φ
  after : Crowd ω φ

abbrev Journal (ω φ : Type) := List (Entry ω φ)

/-- The journals that lead from one state to another. -/
inductive Run (m : Mailboxes ω φ) (start : Crowd ω φ) : Journal ω φ → Crowd ω φ → Prop
  | nil : Run m start [] start
  | cons {j s act s'} (past : Run m start j s) (step : Step m s act s') :
    Run m start (⟨act, s, s'⟩ :: j) s'

namespace Entry

variable (t : Entry ω φ)

def calls : List Call := t.after.shared.calls.drop t.before.shared.calls.length

def puts : List Message :=
  match t.act with
  | .work _ => t.after.shared.queue.messages.drop t.before.shared.queue.messages.length
  | _ => []

def handed : List Message :=
  match t.act with
  | .getMessage => t.before.poller.getMessage.1.toList
  | .getLastMessage => t.before.poller.getLastMessage.1.toList
  | _ => []

def forgets : Bool :=
  match t.act with
  | .forget _ => true
  | _ => false

variable {t}

theorem calls_of_effect {made : List Call} {put : List Message}
    (effect : t.before.shared.Effect made put t.after.shared) : t.calls = made := by
  simp [calls, effect.calls]

theorem puts_of_effect {serial : Nat} {made : List Call} {put : List Message}
    (act : t.act = .work serial) (effect : t.before.shared.Effect made put t.after.shared) :
    t.puts = put := by
  simp [puts, act, effect.queue, Queue.putAll_messages]

end Entry

namespace Journal

def epoch (j : Journal ω φ) : Journal ω φ := j.takeWhile (!·.forgets)

def puts (j : Journal ω φ) : List Message := j.reverse.flatMap (·.puts)

def handed (j : Journal ω φ) : List Message := j.reverse.flatMap (·.handed)

@[simp] theorem puts_cons (t : Entry ω φ) (j : Journal ω φ) : puts (t :: j) = j.puts ++ t.puts := by
  simp [puts]

@[simp] theorem handed_cons (t : Entry ω φ) (j : Journal ω φ) :
    handed (t :: j) = j.handed ++ t.handed := by
  simp [handed]

theorem epoch_cons_of_forgets {t : Entry ω φ} (h : t.forgets = true) (j : Journal ω φ) :
    epoch (t :: j) = [] := by
  simp [epoch, h]

theorem epoch_cons {t : Entry ω φ} (h : t.forgets = false) (j : Journal ω φ) :
    epoch (t :: j) = t :: j.epoch := by
  simp [epoch, h]

end Journal

end Crowd

section Sequential

variable {m : Mailboxes ω φ}

theorem stepFirst_splits {s : Shared ω} {ws : List (Worker φ)} {found : Shared ω × List (Worker φ)}
    (h : stepFirst m s ws = some found) : ∃ before w after r, ws = before ++ w :: after ∧
      w.step m s = some r ∧ found = (r.1, before ++ r.2 :: after) := by
  induction ws generalizing found with
  | nil => cases h
  | cons w ws ih =>
    simp only [stepFirst] at h
    cases goes : w.step m s with
    | some r =>
      rw [goes] at h
      exact ⟨[], w, ws, r, rfl, goes, (Option.some.inj h).symm⟩
    | none =>
      rw [goes] at h
      obtain ⟨rest, inner, rfl⟩ := Option.map_eq_some_iff.1 h
      obtain ⟨before, v, after, r, rfl, steps, rfl⟩ := ih inner
      exact ⟨w :: before, v, after, r, rfl, steps, rfl⟩

theorem stepWorker_stepped {p p' : Poller ω φ} (h : p.stepWorker m = some p') :
    ∃ w r, w.step m p.shared = some r ∧ Stepped p w r p' := by
  unfold stepWorker at h
  split at h
  · rename_i q installed
    obtain rfl := Option.some.inj h
    unfold stepInstalled at installed
    split at installed
    · cases installed
    · rename_i w here
      obtain ⟨r, goes, rfl⟩ := Option.map_eq_some_iff.1 installed
      exact ⟨w, r, goes, .installed here⟩
  · obtain ⟨found, first, rfl⟩ := Option.map_eq_some_iff.1 h
    obtain ⟨before, w, after, r, there, goes, rfl⟩ := stepFirst_splits first
    exact ⟨w, r, goes, .leaving before after there⟩

/-- A caller on its own, seen as a crowd: at most one call is underway, a stop that waits. -/
def System.crowd (s : System ω φ) : Crowd ω φ :=
  ⟨s.poller, s.stopping.elim [] fun waits => [.join waits.1 waits.2]⟩

/-- One caller that makes one call after the other is a crowd of its own. -/
theorem System.Run.crowd {origin s : System ω φ} {h : History ω φ} (run : System.Run m origin h s) :
    ∃ j, Crowd.Run m origin.crowd j s.crowd := by
  induction run with
  | nil => exact ⟨[], .nil⟩
  | @cons h s move s' past step ih =>
    obtain ⟨j, run⟩ := ih
    cases step with
    | start auto free =>
      cases live : s.poller.hasLiveWorker with
      | true => exact ⟨_, run.cons (.startRunning auto live)⟩
      | false =>
        have started := run.cons (.start auto live)
        cases auto with
        | false =>
          have same : s.poller.start false = s.poller.installWorker false := by simp [start, live]
          simp only [System.crowd, System.update, free, same] at started ⊢
          exact ⟨_, started⟩
        | true =>
          have same : s.poller.start true = (s.poller.installWorker true).next.2 := by
            simp [start, live]
          simp only [System.crowd, System.update, free, same] at started ⊢
          exact ⟨_, (started.cons (.look [] [] rfl)).cons (.select _ [] [] rfl)⟩
    | next free =>
      have looked := run.cons .next
      simp only [System.crowd, System.update, free] at looked ⊢
      exact ⟨_, looked.cons (.select _ [] [] rfl)⟩
    | reset free =>
      have looked := run.cons .reset
      simp only [System.crowd, System.update, free, reset_eq_forget] at looked ⊢
      exact ⟨_, looked.cons (.forget _ [] [] rfl)⟩
    | getMessage free => exact ⟨_, run.cons .getMessage⟩
    | getLastMessage free => exact ⟨_, run.cons .getLastMessage⟩
    | waitEnds free done => exact ⟨_, run.cons (.waitEnds done)⟩
    | waitTimesOut limit free busy => exact ⟨_, run.cons (.waitTimesOut limit busy)⟩
    | stopIdle free absent => exact ⟨_, run.cons (.stopIdle absent)⟩
    | @stop w free found =>
      have taken := run.cons (.stop w found)
      have retired := taken.cons (.retire w.serial [] _ rfl)
      have kept : s.poller.takeWorker.2.shared = s.poller.shared := by rw [takeWorker_eq found]
      simp only [System.crowd, free, Crowd.shared, kept] at retired ⊢
      exact ⟨_, retired⟩
    | @stopEnds serial deadline waits ended =>
      simp only [System.crowd, waits] at run ⊢
      exact ⟨_, run.cons (.release serial deadline [] [] rfl ended)⟩
    | work goes =>
      obtain ⟨w, r, steps, place⟩ := stepWorker_stepped goes
      exact ⟨_, run.cons (.work w r steps place)⟩
    | pass ms => exact ⟨_, run.cons (.pass ms)⟩
    | setClock t => exact ⟨_, run.cons (.setClock t)⟩
    | tell event => exact ⟨_, run.cons (.tell event)⟩

end Sequential

end MailRound.Poller
