import MailRound.Proofs.Lifecycle.Effort

namespace MailRound.Poller

variable {ω φ : Type}

def hasLeft (serial : Nat) (p : Poller ω φ) : Bool :=
  p.leaving.all fun w => w.serial ≠ serial || w.finished

/-- A stop comes back: with the end of its worker, or at once where there is none. -/
def Transition.stops (t : Transition ω φ) : Bool :=
  match t.move with
  | .stopEnds => true
  | .stop => t.before.poller.worker.isNone
  | _ => false

def History.stopped (h : History ω φ) : Bool := h.head?.any (·.stops)

/-- No worker goes on with this transition, no mailbox is called and nothing is added. Only a
selection or a reset moves the cursor, and a selection does no more than to note that it waits for a
worker. -/
structure Transition.Quiet (t : Transition ω φ) : Prop where
  still : t.move ≠ .work
  calls : t.after.shared.calls = t.before.shared.calls
  adds : t.AddsNothing
  down : t.after.shared.processing = false
  cursor : t.move ≠ .next → t.move ≠ .reset → t.after.shared.cursor = t.before.shared.cursor
  deferred : t.move = .next → ∃ log, t.after.poller = { t.before.poller with
    shared := { t.before.poller.advanced log with pending := t.before.poller.next.1 } }

namespace System

variable {m : Mailboxes ω φ} {s s' : System ω φ}

structure Unmanned (s : System ω φ) : Prop where
  absent : s.poller.worker = none
  free : s.stopping = none

theorem Unmanned.next (unmanned : s.Unmanned) (down : s.poller.shared.processing = false) :
    ∃ log, s.poller.next.2 = { s.poller with
      shared := { s.poller.advanced log with pending := s.poller.next.1 } } := by
  have selection := next_selection s.poller fun w here => by
    cases unmanned.absent.symm.trans here
  generalize s.poller.next = result at selection ⊢
  cases selection with
  | exhausted log past =>
    refine ⟨log, ?_⟩
    simp only [advanced, down]
  | deferred log chosen absent => exact ⟨log, rfl⟩
  | signalled log chosen w here => cases unmanned.absent.symm.trans here

/-- What goes on without a worker is quiet and installs none, unless it is a start. -/
theorem Unmanned.step {move : Move} (unmanned : s.Unmanned) (sound : s.Sound)
    (step : Step m s move s') (unstarted : ∀ auto, move ≠ .start auto) :
    Transition.Quiet ⟨move, s, s'⟩ ∧ s'.Unmanned := by
  have down := sound.unattended unmanned.absent
  have rests := step.rests sound down
  cases step with
  | start auto free => exact absurd rfl (unstarted auto)
  | next free =>
    obtain ⟨log, deferred⟩ := unmanned.next down
    refine ⟨⟨by simp, ?_, ⟨?_, ?_, ?_, ?_⟩, ?_, by simp, fun _ => ⟨log, deferred⟩⟩,
      ⟨(congrArg _ deferred).trans unmanned.absent, free⟩⟩ <;>
      simp only [System.shared, update, deferred, advanced, Queue.clear]
    · exact List.nil_suffix
    · exact fun _ => id
    · exact down
  | reset free =>
    have rests := rests (by simp) (by simp)
    exact ⟨⟨by simp, rfl, rests.adds, rests.done, by simp, by simp⟩,
      ⟨by simp [update, reset, note, modify, unmanned.absent], free⟩⟩
  | stop free found => cases unmanned.absent.symm.trans found
  | stopEnds waits ended => cases unmanned.free.symm.trans waits
  | work goes =>
    obtain ⟨w, r, -, worked⟩ := sound.worked goes
    cases worked with
    | installed free here => cases unmanned.absent.symm.trans here
    | leaving absent there => simp [sound.free unmanned.free] at there
  | waitTimesOut limit free busy => cases down.symm.trans busy
  | _ =>
    have rests := rests (by simp) (by simp)
    exact ⟨⟨by simp, rfl, rests.adds, rests.done, fun _ _ => rfl, by simp⟩,
      ⟨unmanned.absent, unmanned.free⟩⟩

theorem Run.quiet {later : History ω φ} (unmanned : s.Unmanned) (sound : s.Sound)
    (further : Run m s later s') (unstarted : ∀ t ∈ later, ∀ auto, t.move ≠ .start auto) :
    s'.Unmanned ∧ ∀ t ∈ later, t.Quiet := by
  induction further with
  | nil => exact ⟨unmanned, by simp⟩
  | @cons h s₁ move s₂ past step ih =>
    obtain ⟨here, before⟩ := List.forall_mem_cons.1 unstarted
    obtain ⟨unmanned₁, quiet⟩ := ih before
    obtain ⟨now, unmanned₂⟩ := unmanned₁.step (past.sound sound) step here
    exact ⟨unmanned₂, List.forall_mem_cons.2 ⟨now, quiet⟩⟩

/-- When a stop has come back there is no worker. -/
theorem Step.unmanned {move : Move} (sound : s.Sound) (step : Step m s move s')
    (stops : Transition.stops ⟨move, s, s'⟩ = true) : s'.Unmanned := by
  cases step with
  | stopIdle free absent => exact ⟨absent, free⟩
  | stop free found => simp [Transition.stops, found] at stops
  | @stopEnds serial deadline waits ended =>
    obtain ⟨status, log, released⟩ := release_eq s.poller serial
    rw [released]
    exact ⟨(sound.stopping serial deadline waits).1, rfl⟩
  | _ => cases stops

theorem Sound.now_runUntil_le (sound : s.Sound) (done : Poller ω φ → Bool) (deadline fuel : Nat)
    (before : s.poller.shared.now ≤ deadline) :
    (runUntil m done deadline fuel s.poller).shared.now ≤ deadline := by
  induction fuel generalizing s with
  | zero => exact before
  | succ fuel ih =>
    cases goes : s.poller.stepWorker m with
    | some p =>
      obtain ⟨w, r, made, put, turned⟩ := sound.turned goes
      rw [runUntil_of_step goes]
      exact ih (sound.work goes) (turned.effect.stays.now ▸ before)
    | none =>
      by_cases ended : done s.poller = true ∨ deadline ≤ s.poller.shared.now
      · rwa [runUntil_of_ended goes ended]
      · rw [runUntil_of_waits goes ended]
        refine ih (s := s.update (·.atTime (jump deadline s.poller)))
          (sound.frame rfl rfl rfl rfl rfl rfl) ?_
        have moment : jump deadline s.poller ≤ deadline := by
          unfold jump
          cases s.poller.nextDue with
          | none => exact Nat.max_le.2 ⟨Nat.le_refl _, before⟩
          | some t => exact Nat.max_le.2 ⟨Nat.min_le_right _ _, before⟩
        exact moment

/-- The stop of one thread is a stop of the caller that has come back. -/
theorem stop_comes_back (sound : s.Sound) (listed : s.Listed) (free : s.stopping = none) :
    ∃ past, Run m s past ⟨s.poller.stop m, none⟩ ∧ past.stopped = true ∧
      (s.poller.stop m).shared.now ≤ s.shared.now + gracePeriod := by
  cases found : s.poller.worker with
  | none =>
    have same : s.poller.stop m = s.poller := by simp [Poller.stop, takeWorker, found]
    have self : (⟨s.poller.stop m, none⟩ : System ω φ) = s := by rw [same, ← free]
    rw [self, same]
    exact ⟨_, .cons .nil (.stopIdle free found), by simp [History.stopped, Transition.stops, found],
      Nat.le_add_right _ _⟩
  | some w =>
    have step := Step.stop (m := m) free found
    have sound₁ := sound.step step
    obtain ⟨⟨past, run, -⟩, -, rests⟩ := run_settles (m := m) sound₁ (step.listed sound listed)
      (hasLeft w.serial) (s.shared.now + gracePeriod)
    have inTime := sound₁.now_runUntil_le (m := m) (hasLeft w.serial) (s.shared.now + gracePeriod)
      s.poller.takeWorker.2.retire.stepBound (by rw [stop_eq found]; exact Nat.le_add_right _ _)
    have ran : s.poller.stop m = (s.poller.takeWorker.2.retire.run m (hasLeft w.serial)
        (s.shared.now + gracePeriod)).release w.serial := by
      simp only [Poller.stop, takeWorker, found]
      rfl
    have ends : Step m ⟨s.poller.takeWorker.2.retire.run m (hasLeft w.serial)
        (s.shared.now + gracePeriod), some (w.serial, s.shared.now + gracePeriod)⟩ .stopEnds
        ⟨s.poller.stop m, none⟩ := by
      rw [ran]
      refine .stopEnds rfl (rests.imp_left fun all v among same => ?_)
      simpa [same] using List.all_eq_true.1 all v among
    refine ⟨_, .cons ((Run.nil.cons step).append run) ends, rfl, ?_⟩
    obtain ⟨status, log, released⟩ := release_eq
      (s.poller.takeWorker.2.retire.run m (hasLeft w.serial) (s.shared.now + gracePeriod)) w.serial
    rw [ran, released]
    exact inTime

end System

/-- A stop comes back within its grace period, in whatever state its worker is. When one has come
back, the flag is down, and until the next start every transition is quiet. -/
theorem stop_is_quiescent {m : Mailboxes ω φ} {roster : Roster} {defaults : Polling} {world : ω}
    {clock : Calendar.Instant} {h : History ω φ} {s : System ω φ}
    (run : System.Run m (System.new roster defaults world clock) h s) :
    (s.stopping = none → ∃ past, System.Run m s past ⟨s.poller.stop m, none⟩ ∧
      past.stopped = true ∧ (s.poller.stop m).shared.now ≤ s.shared.now + gracePeriod) ∧
    (h.stopped = true → s.shared.processing = false ∧
      ∀ later s', System.Run m s later s' → (∀ t ∈ later, ∀ auto, t.move ≠ .start auto) →
        s'.shared.processing = false ∧ ∀ t ∈ later, t.Quiet) := by
  have sound := run.sound (System.sound_new roster defaults world clock)
  refine ⟨System.stop_comes_back sound (run.listed (System.sound_new roster defaults world clock)
    (System.listed_new roster defaults world clock)), fun stopped => ?_⟩
  have unmanned : s.Unmanned := by
    cases run with
    | nil => cases stopped
    | cons past step =>
      exact step.unmanned (past.sound (System.sound_new roster defaults world clock)) stopped
  refine ⟨sound.unattended unmanned.absent, fun later s' further unstarted => ?_⟩
  obtain ⟨unmanned', quiet⟩ := further.quiet unmanned sound unstarted
  exact ⟨(further.sound sound).unattended unmanned'.absent, quiet⟩

/-- A poller with one account, whose first fetch takes longer than a stop waits. -/
def System.slow : System Script.Scripts Script.Step :=
  .new ⟨[⟨"box", "imap", true, none, [], .default, none⟩]⟩ ⟨1, 0, 10⟩
    [("box", [{ Script.Step.empty with
      fetch := ⟨20000, none, false⟩, batch := [plainMessage "1"] }])]
    ⟨0, 0⟩

/-- The stop gives the worker up while it fetches. Nothing comes of the fetch, and an account that is
selected later waits for a worker. -/
theorem stop_is_quiescent_slow :
    ∃ (h later : History Script.Scripts Script.Step) (s s' : System Script.Scripts Script.Step),
      System.Run Script.mailboxes .slow h s ∧ h.stopped = true ∧
        System.Run Script.mailboxes s later s' ∧ (∃ t ∈ later, t.returned? = some true) ∧
        s.shared.now < 20000 ∧ 20000 < s'.shared.now ∧ s'.shared.pending = true ∧
        s'.shared.processing = false ∧ ∀ t ∈ later, t.Quiet := by
  have run : System.Run Script.mailboxes .slow [] .slow := .nil
  have run := run.cons (.start true rfl)
  have run := run.cons (.work rfl) |>.cons (.work rfl) |>.cons (.work rfl)
  have run := run.cons (.stop rfl rfl) |>.cons (.pass 5000)
  have run := run.cons (.stopEnds rfl (.inr (by decide +kernel)))
  obtain ⟨-, quiescent⟩ := (stop_is_quiescent run).2 rfl
  have further (s : System Script.Scripts Script.Step) (free : s.stopping = none) :=
    (show System.Run Script.mailboxes s [] s from .nil).cons (.reset free) |>.cons (.next free)
      |>.cons (.pass 60000)
  obtain ⟨down, quiet⟩ := quiescent _ _ (further _ rfl) (by simp)
  exact ⟨_, _, _, _, run, rfl, further _ rfl, ⟨_, .tail _ (.head _), by decide +kernel⟩,
    by decide +kernel, by decide +kernel, by decide +kernel, down, quiet⟩

end MailRound.Poller
