import Mathlib.Data.List.Basic
import MailRound.Proofs.Lifecycle.Effort

namespace MailRound

namespace Poller

/-- How far one state is ahead of another. -/
structure Offset where
  cycle : Nat
  serial : Nat
  now : Nat
  total : Nat
  /-- When a message was put before the first one. -/
  last : Option Calendar.Instant
  calls : List Call

variable {ω φ : Type}

def Cycle.ahead (d : Offset) (c : Cycle) : Cycle := { c with generation := d.cycle + c.generation }

def Flight.ahead {α : Type} (d : Offset) (f : Flight φ α) : Flight φ α :=
  { f with due := d.now + f.due }

def Phase.ahead (d : Offset) : Phase φ → Phase φ
  | .fresh => .fresh
  | .idle => .idle
  | .connecting c f => .connecting (c.ahead d) (f.ahead d)
  | .fetching c f => .fetching (c.ahead d) (f.ahead d)
  | .marking c f e => .marking (c.ahead d) (f.ahead d) e
  | .disconnecting c f result => .disconnecting (c.ahead d) (f.ahead d) result
  | .pausing c due => .pausing (c.ahead d) (d.now + due)
  | .exited => .exited
  | .panicked message => .panicked message

end Poller

open Poller (Offset)

def Queue.ahead (d : Offset) (q : Queue) : Queue :=
  { q with stats := ⟨d.total + q.stats.totalMessages, q.stats.lastMessageTime.or d.last⟩ }

theorem Queue.putAll_ahead (d : Offset) (now : Calendar.Instant) (ms : List Message) (q : Queue) :
    (q.ahead d).putAll now ms = (q.putAll now ms).ahead d := by
  induction ms generalizing q with
  | nil => rfl
  | cons m ms ih => exact ih (q.put now m)

namespace Poller

variable {ω φ : Type}

/-- The state that is so far ahead, with another log. -/
def Shared.ahead (d : Offset) (log : List Log.Event) (s : Shared ω) : Shared ω :=
  { s with
    queue := s.queue.ahead d
    cycle := d.cycle + s.cycle
    now := d.now + s.now
    calls := d.calls ++ s.calls
    log := log }

/-- One state is ahead of the other, whatever their logs tell. -/
def Shared.Leads (d : Offset) (s s' : Shared ω) : Prop := ∃ log, s' = s.ahead d log

namespace Worker

def ahead (d : Offset) (w : Worker φ) : Worker φ :=
  { w with serial := d.serial + w.serial, phase := w.phase.ahead d }

theorem ahead_due? (d : Offset) (w : Worker φ) : (w.ahead d).due? = w.due?.map (d.now + ·) := by
  obtain ⟨serial, phase, signal, closed, stop⟩ := w
  cases phase <;> rfl

def Step.Leads (d : Offset) (r r' : Step ω φ) : Prop := r.1.Leads d r'.1 ∧ r'.2 = r.2.ahead d

variable (d : Offset) (m : Mailboxes ω φ) (s : Shared ω) (w : Worker φ) (c : Cycle) (fetcher : φ)
  (log : List Log.Event)

theorem rel_ite {α β : Type} {R : α → β → Prop} {a b : α} {a' b' : β} {p q : Prop} [Decidable p]
    [Decidable q] (same : p ↔ q) (yes : R a a') (no : R b b') :
    R (if p then a else b) (if q then a' else b') := by
  by_cases h : p
  · rwa [if_pos h, if_pos (same.1 h)]
  · rwa [if_neg h, if_neg (h ∘ same.2)]

theorem finishCycle_ahead :
    Step.Leads d (finishCycle s w) (finishCycle (s.ahead d log) (w.ahead d)) :=
  ⟨⟨log, rfl⟩, rfl⟩

theorem afterAttempt_ahead (result : Attempt) : Step.Leads d (afterAttempt s w c result)
    (afterAttempt (s.ahead d log) (w.ahead d) (c.ahead d) result) := by
  have more (s : Shared ω) (log : List Log.Event) : Step.Leads d
      (afterAttempt s w c .done)
      (afterAttempt (s.ahead d log) (w.ahead d) (c.ahead d) .done) := by
    refine rel_ite Iff.rfl ⟨⟨_, rfl⟩, ?_⟩ (finishCycle_ahead d s w log)
    simp only [ahead, Phase.ahead, Cycle.ahead, Shared.ahead, Cycle.polling, ← Nat.add_assoc]
  cases result with
  | done => exact more s log
  | superseded => exact ⟨⟨_, rfl⟩, rfl⟩
  | failed why =>
    cases why with
    | unknownProvider tag => exact ⟨⟨_, rfl⟩, rfl⟩
    | _ => exact more (s.inform .error _) _

theorem launch_ahead {α : Type} (call : Call) (r : Reply ω φ α)
    (after after' : Flight φ α → Phase φ)
    (same : ∀ f, after' (f.ahead d) = (after f).ahead d := by exact fun _ => rfl) :
    Step.Leads d ((s.launch call r).1, { w with phase := after (s.launch call r).2 })
      (((s.ahead d log).launch call r).1,
        { w.ahead d with phase := after' ((s.ahead d log).launch call r).2 }) := by
  have calls : d.calls ++ s.calls ++ [call] = d.calls ++ (s.calls ++ [call]) :=
    List.append_assoc ..
  have due : ((s.ahead d log).launch call r).2 = (s.launch call r).2.ahead d :=
    congrArg (Flight.mk _ · _) (Nat.add_assoc d.now s.now r.delay)
  refine ⟨⟨log ++ r.log, ?_⟩, ?_⟩
  · simp only [Shared.launch, Shared.record, Shared.ahead, calls]
  · rw [due, same]
    rfl

theorem beginDisconnect_ahead (result : Attempt) :
    Step.Leads d (beginDisconnect m s w c fetcher result)
      (beginDisconnect m (s.ahead d log) (w.ahead d) (c.ahead d) fetcher result) :=
  launch_ahead d s w log _ _ (.disconnecting c · result) (.disconnecting (c.ahead d) · result)

theorem beginAttempt_ahead : Step.Leads d (beginAttempt m s w c)
    (beginAttempt m (s.ahead d log) (w.ahead d) (c.ahead d)) := by
  refine rel_ite Iff.rfl (finishCycle_ahead d s w log) (rel_ite ?_ ⟨⟨_, rfl⟩, rfl⟩ ?_)
  · exact not_congr Nat.add_left_cancel_iff.symm
  · have calls : d.calls ++ s.calls ++ [.create c.account] =
        d.calls ++ (s.calls ++ [.create c.account]) := List.append_assoc ..
    dsimp only [Shared.inform, Shared.note, Shared.record, Shared.ahead, Cycle.ahead]
    rw [calls]
    obtain ⟨world, told, why | fetcher⟩ := m.create s.world c.account
    · exact afterAttempt_ahead d _ w c _ _
    · exact launch_ahead d _ w _ _ _ (.connecting c) (.connecting (c.ahead d))

theorem beginCycle_ahead : Step.Leads d (beginCycle m s w)
    (beginCycle m (s.ahead d log) (w.ahead d)) := by
  unfold beginCycle
  dsimp only [Shared.ahead]
  cases s.cursor.current? with
  | none => exact ⟨⟨_, rfl⟩, rfl⟩
  | some account => exact beginAttempt_ahead d m _ w _ _

theorem afterConnect_ahead (result : Outcome Unit) :
    Step.Leads d (afterConnect m s w c fetcher result)
      (afterConnect m (s.ahead d log) (w.ahead d) (c.ahead d) fetcher result) := by
  cases result with
  | error why => exact beginDisconnect_ahead d m s w c fetcher log _
  | ok _ => exact launch_ahead d s w log _ _ (.fetching c) (.fetching (c.ahead d))

theorem afterMark_ahead (e : Enqueued) (result : Outcome Unit) :
    Step.Leads d (afterMark m s w c fetcher e result)
      (afterMark m (s.ahead d log) (w.ahead d) (c.ahead d) fetcher e result) := by
  cases result with
  | error why => exact beginDisconnect_ahead d m (processedNote (s.inform .error _) c e) w c _ _ _
  | ok _ => exact beginDisconnect_ahead d m (processedNote (s.inform .info _) c e) w c _ _ _

def afterBatch (batch : Shared ω × Enqueued) : Step ω φ :=
  if batch.2.superseded then beginDisconnect m batch.1 w c fetcher .superseded
  else if batch.2.toMark = [] then
    beginDisconnect m (processedNote batch.1 c batch.2) w c fetcher .done
  else
    let call := batch.1.launch (.markRead c.account batch.2.toMark)
      (m.markRead batch.1.world fetcher batch.2.toMark)
    (call.1, { w with phase := .marking c call.2 batch.2 })

theorem afterFetch_eq_afterBatch (x : Message) (xs : List Message) :
    afterFetch m s w c fetcher (.ok (x :: xs)) = afterBatch m w c fetcher ((s.inform .info
      (c.label ++ " Fetched " ++ Text.decimal (x :: xs).length ++ " new email(s).")).enqueueBatch
        c.account c.generation (x :: xs)) := rfl

theorem afterBatch_ahead (batch : Shared ω × Enqueued) :
    Step.Leads d (afterBatch m w c fetcher batch)
      (afterBatch m (w.ahead d) (c.ahead d) fetcher (batch.1.ahead d log, batch.2)) := by
  obtain ⟨s, e⟩ := batch
  refine rel_ite Iff.rfl (beginDisconnect_ahead d m s w c fetcher log _) (rel_ite Iff.rfl ?_ ?_)
  · exact beginDisconnect_ahead d m (processedNote s c e) w c fetcher _ _
  · exact launch_ahead d s w log _ _ (.marking c · e) (.marking (c.ahead d) · e)

theorem enqueueBatch_ahead (account : Account) (generation : Nat) (batch : List Message) :
    ∃ told, (s.ahead d log).enqueueBatch account (d.cycle + generation)
        batch =
      ((s.enqueueBatch account generation batch).1.ahead d told,
        (s.enqueueBatch account generation batch).2) := by
  by_cases current : s.cycle = generation
  · obtain ⟨told, h⟩ := Shared.enqueueBatch_of_current current account batch
    obtain ⟨told', h'⟩ := Shared.enqueueBatch_of_current (s := s.ahead d log)
      (congrArg (d.cycle + ·) current) account batch
    refine ⟨told', ?_⟩
    rw [h, h']
    simp only [Shared.ahead, Queue.putAll_ahead]
  · have stale : (s.ahead d log).cycle ≠ d.cycle + generation :=
      fun same => current (Nat.add_left_cancel same)
    rw [Shared.enqueueBatch_of_stale current account batch, Shared.enqueueBatch_of_stale stale]
    exact ⟨log, rfl⟩

theorem afterFetch_ahead (result : Outcome (List Message)) :
    Step.Leads d (afterFetch m s w c fetcher result)
      (afterFetch m (s.ahead d log) (w.ahead d) (c.ahead d) fetcher result) := by
  cases result with
  | error why => exact beginDisconnect_ahead d m s w c fetcher log _
  | ok batch =>
    cases batch with
    | nil => exact beginDisconnect_ahead d m (s.inform .info _) w c fetcher _ _
    | cons x xs =>
      let fetched := c.label ++ " Fetched " ++ Text.decimal (x :: xs).length ++ " new email(s)."
      obtain ⟨told, taken⟩ := enqueueBatch_ahead d (s.inform .info fetched)
        (log ++ [⟨.info, .worker, fetched⟩]) c.account c.generation (x :: xs)
      have h := afterBatch_ahead d m w c fetcher told
        ((s.inform .info fetched).enqueueBatch c.account c.generation (x :: xs))
      rw [← taken] at h
      rw [afterFetch_eq_afterBatch, afterFetch_eq_afterBatch]
      exact h

theorem land_ahead {α : Type} {f : Flight φ α} {go go' : φ → Outcome α → Step ω φ}
    (leads : ∀ result, (go f.fetcher result).Leads d (go' f.fetcher result)) :
    Option.Rel (Step.Leads d) (land s w f go)
      (land (s.ahead d log) (w.ahead d) (f.ahead d) go') := by
  unfold land
  by_cases due : f.due ≤ s.now
  · have due' : (f.ahead d).due ≤ (s.ahead d log).now := Nat.add_le_add_left due _
    rw [if_pos due, if_pos due']
    dsimp only [Flight.ahead]
    cases f.fate with
    | returns result => exact .some (leads result)
    | panics message => exact .some ⟨⟨log, rfl⟩, rfl⟩
  · have due' : ¬(f.ahead d).due ≤ (s.ahead d log).now :=
      fun h => due (Nat.le_of_add_le_add_left h)
    rw [if_neg due, if_neg due']
    exact .none

/-- The worker makes the same steps in a state that is ahead. -/
theorem step_ahead : Option.Rel (Step.Leads d) (w.step m s)
    ((w.ahead d).step m (s.ahead d log)) := by
  unfold step
  obtain ⟨serial, phase, signal, closed, stop⟩ := w
  cases phase with
  | fresh => exact .some ⟨⟨_, rfl⟩, rfl⟩
  | idle =>
    cases stop with
    | true => exact .some ⟨⟨_, rfl⟩, rfl⟩
    | false =>
      cases signal with
      | true => exact .some (beginCycle_ahead d m s ⟨serial, .idle, false, closed, false⟩ log)
      | false =>
        cases closed with
        | true => exact .some ⟨⟨_, rfl⟩, rfl⟩
        | false => exact .none
  | connecting c f => exact land_ahead d s _ log (afterConnect_ahead d m s _ c f.fetcher log)
  | fetching c f => exact land_ahead d s _ log (afterFetch_ahead d m s _ c f.fetcher log)
  | marking c f e => exact land_ahead d s _ log (afterMark_ahead d m s _ c f.fetcher log e)
  | disconnecting c f result =>
    exact land_ahead d s _ log (fun _ => afterAttempt_ahead d s _ c log result)
  | pausing c due =>
    have superseded : s.cycle ≠ c.generation ↔ d.cycle + s.cycle ≠ d.cycle + c.generation :=
      not_congr Nat.add_left_cancel_iff.symm
    have come : due ≤ s.now ↔ d.now + due ≤ d.now + s.now := Nat.add_le_add_iff_left.symm
    refine rel_ite (or_congr Iff.rfl superseded) (.some ⟨⟨_, rfl⟩, rfl⟩) (rel_ite come ?_ .none)
    exact .some (beginAttempt_ahead d m s _ c log)
  | exited => exact .none
  | panicked message => exact .none

end Worker

/-- The poller that is so far ahead, with another log. -/
def ahead (d : Offset) (log : List Log.Event) (p : Poller ω φ) : Poller ω φ :=
  { p with
    shared := p.shared.ahead d log
    worker := p.worker.map (·.ahead d)
    leaving := p.leaving.map (·.ahead d)
    spawned := d.serial + p.spawned }

def Leads (d : Offset) (p p' : Poller ω φ) : Prop := ∃ log, p' = p.ahead d log

variable {d : Offset} {m : Mailboxes ω φ}

theorem stepInstalled_ahead (p : Poller ω φ) (log : List Log.Event) :
    Option.Rel (Leads d) (p.stepInstalled m) ((p.ahead d log).stepInstalled m) := by
  obtain ⟨accounts, s, worker, leaving, spawned⟩ := p
  cases worker with
  | none => exact .none
  | some w =>
    have step := w.step_ahead d m s log
    dsimp only [stepInstalled, ahead, Option.map_some]
    generalize w.step m s = r? at step
    generalize (w.ahead d).step m (s.ahead d log) = r'? at step
    cases step with
    | none => exact .none
    | @some r r' leads =>
      obtain ⟨s', w'⟩ := r'
      obtain ⟨⟨told, rfl⟩, rfl⟩ := leads
      exact .some ⟨told, rfl⟩

theorem stepFirst_ahead (s : Shared ω) (log : List Log.Event) (ws : List (Worker φ)) :
    Option.Rel (fun r r' => r.1.Leads d r'.1 ∧ r'.2 = r.2.map (·.ahead d)) (stepFirst m s ws)
      (stepFirst m (s.ahead d log) (ws.map (·.ahead d))) := by
  induction ws with
  | nil => exact .none
  | cons w ws ih =>
    have step := w.step_ahead d m s log
    rw [List.map_cons, stepFirst, stepFirst]
    generalize w.step m s = r? at step
    generalize (w.ahead d).step m (s.ahead d log) = r'? at step
    cases step with
    | none =>
      generalize stepFirst m s ws = q? at ih
      generalize stepFirst m (s.ahead d log) (ws.map (·.ahead d)) = q'? at ih
      cases ih with
      | none => exact .none
      | @some q q' leads =>
        obtain ⟨s', ws'⟩ := q'
        obtain ⟨shared, rfl⟩ := leads
        exact .some ⟨shared, rfl⟩
    | @some r r' leads =>
      obtain ⟨s', w'⟩ := r'
      obtain ⟨shared, rfl⟩ := leads
      exact .some ⟨shared, rfl⟩

theorem stepWorker_ahead (p : Poller ω φ) (log : List Log.Event) :
    Option.Rel (Leads d) (p.stepWorker m) ((p.ahead d log).stepWorker m) := by
  have installed := stepInstalled_ahead (d := d) (m := m) p log
  have first := stepFirst_ahead (d := d) (m := m) p.shared log p.leaving
  unfold stepWorker
  generalize p.stepInstalled m = q? at installed
  generalize (p.ahead d log).stepInstalled m = q'? at installed
  cases installed with
  | some leads => exact .some leads
  | none =>
    dsimp only [ahead]
    generalize stepFirst m p.shared p.leaving = r? at first
    generalize stepFirst m (p.shared.ahead d log) (p.leaving.map (·.ahead d)) = r'? at first
    cases first with
    | none => exact .none
    | @some r r' leads =>
      obtain ⟨s', ws'⟩ := r'
      obtain ⟨⟨told, rfl⟩, rfl⟩ := leads
      exact .some ⟨told, rfl⟩

theorem stepWorker_of_leads {p p' q : Poller ω φ} (leads : p.Leads d p')
    (goes : p.stepWorker m = some q) : ∃ q', p'.stepWorker m = some q' ∧ q.Leads d q' := by
  obtain ⟨log, rfl⟩ := leads
  have step := stepWorker_ahead (d := d) (m := m) p log
  rw [goes] at step
  generalize (p.ahead d log).stepWorker m = q'? at step
  cases step with
  | some leads => exact ⟨_, rfl, leads⟩

theorem stepWorker_of_led {p p' q' : Poller ω φ} (leads : p.Leads d p')
    (goes : p'.stepWorker m = some q') : ∃ q, p.stepWorker m = some q ∧ q.Leads d q' := by
  obtain ⟨log, rfl⟩ := leads
  have step := stepWorker_ahead (d := d) (m := m) p log
  rw [goes] at step
  generalize p.stepWorker m = q? at step
  cases step with
  | some leads => exact ⟨_, rfl, leads⟩

theorem stuck_of_leads {p p' : Poller ω φ} (leads : p.Leads d p') (stuck : p.stepWorker m = none) :
    p'.stepWorker m = none := by
  obtain ⟨log, rfl⟩ := leads
  have step := stepWorker_ahead (d := d) (m := m) p log
  rw [stuck] at step
  generalize (p.ahead d log).stepWorker m = q'? at step
  cases step
  rfl

theorem earliest_map_add (n : Nat) (ts : List Nat) :
    earliest (ts.map (n + ·)) = (earliest ts).map (n + ·) := by
  induction ts with
  | nil => rfl
  | cons t ts ih =>
    rw [List.map_cons, earliest, earliest, ih]
    cases earliest ts with
    | none => rfl
    | some u => exact congrArg some (Nat.add_min_add_left n t u)

theorem nextDue_ahead (p : Poller ω φ) (log : List Log.Event) :
    (p.ahead d log).nextDue = p.nextDue.map (d.now + ·) := by
  have dues (ws : List (Worker φ)) : (ws.map (·.ahead d)).filterMap Worker.due? =
      (ws.filterMap Worker.due?).map (d.now + ·) := by
    rw [List.filterMap_map, List.map_filterMap]
    exact List.filterMap_congr fun w _ => w.ahead_due? d
  have crew : (p.worker.map (·.ahead d)).toList = p.worker.toList.map (·.ahead d) := by
    cases p.worker <;> rfl
  rw [nextDue, nextDue, ahead]
  dsimp only
  rw [crew, ← List.map_append, dues, earliest_map_add]

theorem jump_ahead (p : Poller ω φ) (log : List Log.Event) (deadline : Nat) :
    jump (d.now + deadline) (p.ahead d log) = d.now + jump deadline p := by
  have now : (p.ahead d log).shared.now = d.now + p.shared.now := rfl
  rw [jump, jump, nextDue_ahead, now]
  cases p.nextDue with
  | none => exact Nat.add_max_add_left ..
  | some t =>
    simp only [Option.map_some, Option.elim_some]
    omega

/-- A run on one thread goes the same way in a poller that is ahead. -/
theorem runUntil_ahead {done done' : Poller ω φ → Bool} {deadline fuel : Nat} {p p' : Poller ω φ}
    (blind : ∀ (p : Poller ω φ) (log : List Log.Event), done' (p.ahead d log) = done p)
    (leads : p.Leads d p') :
    (runUntil m done deadline fuel p).Leads d (runUntil m done' (d.now + deadline) fuel p') := by
  induction fuel generalizing p p' with
  | zero => exact leads
  | succ fuel ih =>
    cases goes : p.stepWorker m with
    | some q =>
      obtain ⟨q', goes', leads'⟩ := stepWorker_of_leads leads goes
      rw [runUntil_of_step goes, runUntil_of_step goes']
      exact ih leads'
    | none =>
      have goes' := stuck_of_leads leads goes
      obtain ⟨log, rfl⟩ := leads
      by_cases ended : done p = true ∨ deadline ≤ p.shared.now
      · have ended' : done' (p.ahead d log) = true ∨
            d.now + deadline ≤ (p.ahead d log).shared.now :=
          ended.imp (blind p log).trans (Nat.add_le_add_left · _)
        rw [runUntil_of_ended goes ended, runUntil_of_ended goes' ended']
        exact ⟨log, rfl⟩
      · have ended' : ¬(done' (p.ahead d log) = true ∨
            d.now + deadline ≤ (p.ahead d log).shared.now) := by
          rintro (up | come)
          · exact ended (.inl ((blind p log).symm.trans up))
          · exact ended (.inr (Nat.le_of_add_le_add_left come))
        rw [runUntil_of_waits goes ended, runUntil_of_waits goes' ended', jump_ahead]
        exact ih ⟨log, rfl⟩

end Poller

end MailRound
