import MailRound.Poller.Timeline
import Mathlib.Tactic.Common

namespace MailRound

namespace Cursor

/-- The place that the next selection comes to, if there is an account at it. -/
def place (c : Cursor) : Nat :=
  match c.index with
  | none => 0
  | some i => i + 1

theorem advance_eq (c : Cursor) : c.advance =
    if c.place < c.accounts.length then (true, { c with index := some c.place })
    else (false, { c with index := none }) := by
  cases h : c.index <;> simp [advance, place, h]

theorem accounts_advance (c : Cursor) : c.advance.2.accounts = c.accounts := by
  rw [advance_eq]
  split <;> rfl

theorem advance_cases (c : Cursor) :
    c.advance.1 = true ∧ c.advance.2.current?.isSome = true ∨
      c.advance.1 = false ∧ c.advance.2.current? = none := by
  rw [advance_eq]
  by_cases inside : c.place < c.accounts.length
  · rw [if_pos inside]
    exact .inl ⟨rfl, by simp [current?, inside]⟩
  · rw [if_neg inside]
    exact .inr ⟨rfl, rfl⟩

theorem advance_of_some {c : Cursor} {a : Account} (h : c.advance.2.current? = some a) :
    c.advance.2.accounts = c.accounts ∧ c.advance.2.place = c.place + 1 ∧
      c.accounts.drop c.place = a :: c.accounts.drop (c.place + 1) ∧
      c.accounts.take (c.place + 1) = c.accounts.take c.place ++ [a] := by
  rw [advance_eq] at h ⊢
  by_cases inside : c.place < c.accounts.length
  · rw [if_pos inside] at h ⊢
    have found : c.accounts[c.place]? = some a := by simpa [current?] using h
    obtain ⟨_, rfl⟩ := List.getElem?_eq_some_iff.1 found
    exact ⟨rfl, rfl, List.drop_eq_getElem_cons inside, List.take_succ_eq_append_getElem inside⟩
  · rw [if_neg inside] at h
    simp [current?] at h

theorem advance_of_none {c : Cursor} (h : c.advance.2.current? = none) :
    c.advance.2.accounts = c.accounts ∧ c.accounts.length ≤ c.place := by
  rw [advance_eq] at h ⊢
  by_cases inside : c.place < c.accounts.length
  · rw [if_pos inside] at h
    simp [current?, inside] at h
  · rw [if_neg inside]
    exact ⟨rfl, Nat.le_of_not_lt inside⟩

end Cursor

namespace Poller

variable {ω φ : Type}

/-- The channel has one place: after a signal it is taken, whether or not it was free. -/
theorem sendSignal_eq {p : Poller ω φ} {w : Worker φ} (installed : p.worker = some w)
    (accepting : w.closed = false) : ∃ log, p.sendSignal w.serial =
      { p with
        shared := { p.shared with log := log }
        worker := some { w with signal := true } } := by
  obtain ⟨serial, phase, signal, closed, stop⟩ := w
  dsimp only at accepting
  subst accepting
  cases signal with
  | false => exact ⟨p.shared.log, by simp [sendSignal, installed]⟩
  | true =>
    refine ⟨p.shared.log ++ [⟨.debug, .poller, "Worker signal already pending"⟩], ?_⟩
    simp [sendSignal, installed, note, modify, Shared.note]

/-- What a selection does whether or not it comes to an account. -/
def advanced (p : Poller ω φ) (log : List Log.Event) : Shared ω :=
  { p.shared with
    queue := p.shared.queue.clear
    cycle := p.shared.cycle + 1
    cursor := p.shared.cursor.advance.2
    log := log }

/-- How a selection ends: behind the last account, without a worker, or with a signal. -/
inductive Selection (p : Poller ω φ) : Bool × Poller ω φ → Prop
  | exhausted (log : List Log.Event) (past : p.shared.cursor.advance.2.current? = none) :
    Selection p (false, { p with
      shared := { p.advanced log with pending := false, processing := false } })
  | deferred (log : List Log.Event) (chosen : p.shared.cursor.advance.2.current?.isSome = true)
    (absent : p.worker = none) :
    Selection p (true, { p with shared := { p.advanced log with pending := true } })
  | signalled (log : List Log.Event) (chosen : p.shared.cursor.advance.2.current?.isSome = true)
    (w : Worker φ) (installed : p.worker = some w) :
    Selection p (true, { p with
      shared := { p.advanced log with pending := false, processing := true }
      worker := some { w with signal := true } })

theorem next_selection (p : Poller ω φ) (accepting : ∀ w, p.worker = some w → w.closed = false) :
    Selection p p.next := by
  have cases := p.shared.cursor.advance_cases
  cases advance : p.shared.cursor.advance with
  | mk more cursor =>
  have moved : p.shared.cursor.advance.2 = cursor := by rw [advance]
  rw [advance] at cases
  obtain ⟨rfl, chosen⟩ | ⟨rfl, past⟩ := cases
  · cases installed : p.worker with
    | none =>
      have h : p.next = (true, { p with shared := { p.advanced (p.shared.log ++ [⟨.warn, .poller,
          "Account selected but the worker is not running; it will be polled on start()"⟩]) with
          pending := true } }) := by
        simp only [next, selectNext, signalTarget, installed, modify, advance, Option.map_none,
          advanced]
        rfl
      rw [h]
      exact .deferred _ (moved ▸ chosen) installed
    | some w =>
      have opened := accepting w installed
      obtain ⟨log, sent⟩ := sendSignal_eq (p := { p with
        shared := { p.advanced p.shared.log with pending := false, processing := true } })
        installed opened
      have h : p.next = (true, { p with
          shared := { p.advanced log with pending := false, processing := true }
          worker := some { w with signal := true } }) := by
        simp only [next, selectNext, signalTarget, installed, modify, advance, Option.map_some]
        simp only [advanced, advance, installed] at sent ⊢
        rw [sent]
      rw [h]
      exact .signalled log (moved ▸ chosen) w installed
  · have h : p.next = (false, { p with shared := { p.advanced (p.shared.log ++ [⟨.info, .poller,
        "No more accounts to process, cursor reset"⟩]) with
        pending := false, processing := false } }) := by
      simp only [next, selectNext, modify, advance, advanced]
      rfl
    rw [h]
    exact .exhausted _ (moved ▸ past)

def manned (p : Poller ω φ) (log : List Log.Event) : Poller ω φ :=
  { p with
    worker := some (Worker.spawn p.spawned)
    spawned := p.spawned + 1
    shared := { p.shared with status := .idle, log := log } }

/-- How a start ends: a live worker goes on, a selection of before is resumed, the new worker has
nothing to do yet, or it gets the next account. -/
inductive Starting (p : Poller ω φ) : Bool → Poller ω φ → Prop
  | running {auto} (log : List Log.Event) (live : p.hasLiveWorker = true) :
    Starting p auto { p with shared := { p.shared with log := log } }
  | resumed (log : List Log.Event) (dead : p.hasLiveWorker = false)
    (pending : p.shared.pending = true) (selected : p.shared.cursor.current?.isSome = true) :
    Starting p false { p.manned log with
      shared := { (p.manned log).shared with pending := false, processing := true }
      worker := some { Worker.spawn p.spawned with signal := true } }
  | waiting (log : List Log.Event) (dead : p.hasLiveWorker = false)
    (nothing : p.shared.pending = false ∨ p.shared.cursor.current? = none) :
    Starting p false { p.manned log with
      shared := { (p.manned log).shared with pending := false } }
  | selecting (dead : p.hasLiveWorker = false) : Starting p true (p.installWorker true).next.2

theorem installWorker_auto (p : Poller ω φ) : ∃ log, p.installWorker true = p.manned log := by
  refine ⟨p.shared.log ++ [⟨.info, .poller, "Email poller worker thread started"⟩], ?_⟩
  simp only [installWorker, Bool.not_true, Bool.and_false, Bool.false_eq_true, if_false]
  rfl

theorem installWorker_waits {p : Poller ω φ}
    (nothing : p.shared.pending = false ∨ p.shared.cursor.current? = none) :
    ∃ log, p.installWorker false = { p.manned log with
      shared := { (p.manned log).shared with pending := false } } := by
  refine ⟨p.shared.log ++ [⟨.info, .poller, "Email poller worker thread started"⟩], ?_⟩
  cases pending : p.shared.pending with
  | false =>
    simp only [installWorker, modify, pending, manned]
    rfl
  | true =>
    have unselected : p.shared.cursor.current? = none := by simpa [pending] using nothing
    simp only [installWorker, modify, pending, unselected, manned]
    rfl

theorem installWorker_resumes {p : Poller ω φ} {account : Account}
    (pending : p.shared.pending = true) (selected : p.shared.cursor.current? = some account) :
    ∃ log, p.installWorker false = { p.manned log with
      shared := { (p.manned log).shared with pending := false, processing := true }
      worker := some { Worker.spawn p.spawned with signal := true } } := by
  let told := p.shared.log ++ [⟨.info, .poller,
    "Resuming account selected before start: " ++ account.id⟩]
  let resumed : Poller ω φ := { p.manned told with
    shared := { (p.manned told).shared with pending := false, processing := true } }
  have signals : p.installWorker false = (resumed.sendSignal p.spawned).note .info
      "Email poller worker thread started" := by
    simp only [installWorker, modify, pending, selected, Bool.not_false, Bool.and_self, if_true]
    rfl
  obtain ⟨log, sent⟩ := sendSignal_eq (p := resumed) (w := Worker.spawn p.spawned) rfl rfl
  exact ⟨_, signals.trans (congrArg (fun q => note q .info _) sent)⟩

theorem start_starting (p : Poller ω φ) (auto : Bool) : Starting p auto (p.start auto) := by
  cases live : p.hasLiveWorker with
  | true =>
    have h : p.start auto = { p with shared := { p.shared with
        log := p.shared.log ++ [⟨.debug, .poller, "Email poller worker already running"⟩] } } := by
      simp only [start, live, if_true]
      rfl
    rw [h]
    exact .running _ live
  | false =>
    cases auto with
    | true =>
      have h : p.start true = (p.installWorker true).next.2 := by
        simp only [start, live, Bool.false_eq_true, if_false, if_true]
      rw [h]
      exact .selecting live
    | false =>
      have plain : p.start false = p.installWorker false := by simp [start, live]
      rw [plain]
      by_cases nothing : p.shared.pending = false ∨ p.shared.cursor.current? = none
      · obtain ⟨log, h⟩ := installWorker_waits nothing
        rw [h]
        exact .waiting log live nothing
      · obtain ⟨pending, selected⟩ : p.shared.pending = true ∧ p.shared.cursor.current? ≠ none := by
          simpa using nothing
        obtain ⟨account, chosen⟩ := Option.ne_none_iff_exists'.1 selected
        obtain ⟨log, h⟩ := installWorker_resumes pending chosen
        rw [h]
        exact .resumed log live pending (by rw [chosen]; rfl)

theorem auto_selection (p : Poller ω φ) :
    ∃ log, Selection (p.manned log) (p.installWorker true).next := by
  obtain ⟨log, installed⟩ := installWorker_auto p
  refine ⟨log, ?_⟩
  rw [installed]
  refine next_selection _ fun w here => ?_
  rw [← Option.some.inj here]
  rfl

theorem stop_eq {p : Poller ω φ} {w : Worker φ} (found : p.worker = some w) :
    p.takeWorker.2.retire = { p with
      worker := none
      leaving := { w with stop := true, closed := true } :: p.leaving
      shared := { p.shared with cycle := p.shared.cycle + 1, processing := false } } := by
  simp only [takeWorker, found, retire, modify]

/-- The end of a stop touches only what is told about the worker. -/
theorem release_eq (p : Poller ω φ) (serial : Nat) : ∃ status log, p.release serial =
    { p with
      leaving := p.leaving.filter (·.serial ≠ serial)
      shared := { p.shared with status := status, log := log } } := by
  unfold release
  dsimp only
  split
  · exact ⟨p.shared.status, p.shared.log, rfl⟩
  · split
    · exact ⟨p.shared.status, _, rfl⟩
    · exact ⟨p.shared.status, _, rfl⟩
    · exact ⟨.stopped, _, rfl⟩

theorem reset_eq (p : Poller ω φ) : ∃ log, p.reset =
    { p with
      worker := p.worker.map fun w => { w with signal := false }
      shared := { p.shared with
        cursor := Cursor.new p.accounts
        queue := p.shared.queue.clear
        delivered := .empty
        pending := false
        cycle := p.shared.cycle + 1
        processing := false
        log := log } } :=
  ⟨_, rfl⟩

end Poller

end MailRound
