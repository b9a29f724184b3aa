import MailRound.Proofs.Crowd.Attendance
import MailRound.Proofs.Lifecycle.Effort

namespace MailRound.Poller

namespace System

variable {ω φ : Type} {m : Mailboxes ω φ} {s s' : System ω φ} {h : History ω φ} {w : Worker φ}
  {p : Poller ω φ}

/-- As long as the caller makes no move, no call to a mailbox takes a worker down. -/
def Answered (s : System ω φ) (m : Mailboxes ω φ) : Prop :=
  ∀ later s', Run m s later s' → (∀ t ∈ later, t.move.beside = true) → ∀ t ∈ later, ¬t.Panics

theorem Answered.step {move : Move} (answered : s.Answered m) (step : Step m s move s')
    (beside : move.beside = true) : ¬Transition.Panics ⟨move, s, s'⟩ ∧ s'.Answered m := by
  have single : Run m s [⟨move, s, s'⟩] s' := .cons .nil step
  refine ⟨answered _ _ single (by simpa using beside) _ List.mem_cons_self, ?_⟩
  intro later s'' run outer t among
  refine answered _ _ (single.append run) ?_ t (List.mem_append_left _ among)
  exact List.forall_mem_append.2 ⟨outer, by simpa using beside⟩

theorem Sound.lives (sound : s.Sound) (goes : s.poller.stepWorker m = some p)
    (calm : ¬Transition.Panics ⟨.work, s, { s with poller := p }⟩)
    (here : s.poller.worker = some w) : ∃ w', p.worker = some w' ∧ w'.finished = false := by
  obtain ⟨v, r, made, put, turned⟩ := sound.turned goes
  obtain ⟨active, now, -⟩ := turned.worked.active
  obtain rfl := Option.some.inj ((active?_of_worker here).symm.trans active)
  have fits := sound.installed w here
  have alive (message : String) : r.2.phase ≠ .panicked message := fun died =>
    calm ⟨rfl, r.2, message, now, died⟩
  exact ⟨r.2, turned.worked.installs here,
    (turned.turn.tends fits.running fits.accepting alive).1⟩

/-- With time enough, a run on one thread takes the flag down. -/
def Completes (m : Mailboxes ω φ) (p : Poller ω φ) : Prop :=
  ∃ latest, ∀ deadline fuel, latest ≤ deadline → 2 * p.effort + 2 ≤ fuel →
    (runUntil m (fun p => !p.shared.processing) deadline fuel p).shared.processing = false

theorem completes_of_down (stuck : p.stepWorker m = none) (down : p.shared.processing = false) :
    Completes m p := by
  refine ⟨0, fun deadline fuel _ _ => ?_⟩
  rw [runUntil_of_ended stuck (.inl (by simp [down]))]
  exact down

theorem Completes.of_step (completes : Completes m p) (sound : s.Sound)
    (goes : s.poller.stepWorker m = some p) : Completes m s.poller := by
  obtain ⟨latest, down⟩ := completes
  have less := sound.lessens goes
  refine ⟨latest, fun deadline fuel come enough => ?_⟩
  obtain ⟨fuel, rfl⟩ := Nat.exists_eq_add_of_le' (Nat.le_trans (by omega : 1 ≤ _) enough)
  rw [runUntil_of_step goes]
  exact down deadline fuel come (by omega)

/-- One that waits for the time completes if it does from the moment on at which it goes on. -/
theorem Completes.of_due {t : Nat} (completes : Completes m p) (sound : s.Sound)
    (stuck : s.poller.stepWorker m = none) (up : s.poller.shared.processing = true)
    (due : s.poller.nextDue = some t) (ahead : s.poller.shared.now < t)
    (goes : (s.poller.atTime t).stepWorker m = some p) : Completes m s.poller := by
  obtain ⟨latest, down⟩ := completes
  have later : (s.update (·.atTime t)).Sound := sound.frame rfl rfl rfl rfl rfl rfl
  have less : p.effort < s.poller.effort := later.lessens goes
  refine ⟨max t latest, fun deadline fuel come enough => ?_⟩
  have moment : jump deadline s.poller = t := by
    rw [jump, due, Option.elim_some]
    omega
  have waits : ¬((!s.poller.shared.processing) = true ∨ deadline ≤ s.poller.shared.now) := by
    rw [up]
    simp
    omega
  obtain ⟨fuel, rfl⟩ := Nat.exists_eq_add_of_le' (Nat.le_trans (by omega : 2 ≤ _) enough)
  rw [runUntil_of_waits stuck waits, moment, runUntil_of_step goes]
  exact down deadline fuel (by omega) (by omega)

theorem wait_eq_true {limit : Nat} :
    (p.wait m limit).1 = true ↔ p.shared.processing = false ∨
      (p.run m (fun p => !p.shared.processing) (p.shared.now + limit)).shared.processing =
        false := by
  unfold wait
  cases p.shared.processing with
  | false => simp
  | true =>
    cases up : (p.run m (fun p => !p.shared.processing) (p.shared.now + limit)).shared.processing <;>
      simp [up]

theorem Completes.waits (completes : Completes m s.poller) (listed : s.Listed) :
    ∃ limit, ∀ longer, limit ≤ longer → (s.poller.wait m longer).1 = true := by
  obtain ⟨latest, down⟩ := completes
  refine ⟨latest, fun longer more => wait_eq_true.2 (.inr ?_)⟩
  exact down _ _ (Nat.le_trans more (Nat.le_add_left _ _)) listed.effort_le

end System

section Scripted

open Worker (Scripted)

variable {s s' : Shared Script.Scripts} {w : Worker Script.Step} {c : Cycle} {step : Script.Step}
  {r : Worker.Step Script.Scripts Script.Step}

def Worker.Harmless (r : Worker.Step Script.Scripts Script.Step) : Prop :=
  r.2.Scripted ∧ Script.Calm r.1.world

namespace Worker

theorem afterAttempt_harmless (calm : Script.Calm s.world) (result : Attempt) :
    Harmless (afterAttempt s w c result) := by
  unfold afterAttempt
  dsimp only
  split
  · split <;> exact ⟨trivial, calm⟩
  · exact ⟨trivial, calm⟩
  · exact ⟨trivial, calm⟩
  · split <;> exact ⟨trivial, calm⟩

theorem beginAttempt_harmless (calm : Script.Calm s.world) :
    Harmless (beginAttempt Script.mailboxes s w c) := by
  obtain ⟨first, others⟩ := Script.take_calm calm c.account.id
  unfold beginAttempt
  dsimp only
  split
  · exact ⟨trivial, calm⟩
  · split
    · exact ⟨trivial, calm⟩
    · cases failed : (Script.take s.world c.account.id).1.createError with
      | some why =>
        simp only [Shared.inform, Shared.note, Shared.record, Script.mailboxes, failed]
        exact afterAttempt_harmless others _
      | none =>
        simp only [Shared.inform, Shared.note, Shared.record, Script.mailboxes, failed]
        exact ⟨⟨first, failed, rfl⟩, others⟩

theorem beginDisconnect_harmless (calm : Script.Calm s.world) (harmless : step.Calm)
    (result : Attempt) : Harmless (beginDisconnect Script.mailboxes s w c step result) :=
  ⟨⟨harmless, rfl⟩, calm⟩

theorem afterFetch_harmless (calm : Script.Calm s.world) (harmless : step.Calm)
    (result : Outcome (List Message)) :
    Harmless (afterFetch Script.mailboxes s w c step result) := by
  cases result with
  | error why => exact beginDisconnect_harmless calm harmless _
  | ok batch =>
    cases batch with
    | nil => exact ⟨⟨harmless, rfl⟩, calm⟩
    | cons x xs =>
      obtain ⟨delivered, queue, log, taken⟩ := Shared.enqueueBatch_keeps (s.inform .info
        (c.label ++ " Fetched " ++ Text.decimal (x :: xs).length ++ " new email(s).")) c.account
        c.generation (x :: xs)
      have kept := congrArg Shared.world taken
      unfold afterFetch
      dsimp only
      split
      · exact ⟨⟨harmless, rfl⟩, kept ▸ calm⟩
      · split
        · exact ⟨⟨harmless, rfl⟩, kept ▸ calm⟩
        · exact ⟨⟨harmless, rfl⟩, kept ▸ calm⟩

/-- A step leaves nothing behind that could take the worker down. -/
theorem step_harmless (scripted : w.Scripted) (calm : Script.Calm s.world)
    (h : w.step Script.mailboxes s = some r) : Harmless r := by
  cases step_cases h with
  | wakes phase => exact ⟨trivial, calm⟩
  | exits phase why => exact ⟨trivial, calm⟩
  | begins phase go signal =>
    unfold beginCycle
    split
    · exact ⟨trivial, calm⟩
    · exact beginAttempt_harmless calm
  | connects c f phase due result back =>
    obtain ⟨harmless, -⟩ : f.fetcher.Calm ∧ f.fetcher.createError = none ∧
        f.fate = f.fetcher.connect.fate () := by simpa [Scripted, phase] using scripted
    cases result <;> exact ⟨⟨harmless, rfl⟩, calm⟩
  | fetches c f phase due result back =>
    obtain ⟨harmless, -⟩ : f.fetcher.Calm ∧
        f.fate = f.fetcher.fetch.fate f.fetcher.batch := by simpa [Scripted, phase] using scripted
    exact afterFetch_harmless calm harmless result
  | marks c f e phase due result back =>
    obtain ⟨harmless, -⟩ : f.fetcher.Calm ∧ f.fate = f.fetcher.mark.fate () := by
      simpa [Scripted, phase] using scripted
    cases result <;> exact ⟨⟨harmless, rfl⟩, calm⟩
  | disconnects c f result phase due answer back => exact afterAttempt_harmless calm result
  | abandons c due phase why => exact ⟨trivial, calm⟩
  | again c due phase come => exact beginAttempt_harmless calm
  | dies message heard => exact absurd heard (hears?_ne_panicked scripted)

end Worker

/-- Mailboxes that follow a script without panics answer every call. -/
theorem System.answered_of_calm {s : System Script.Scripts Script.Step} (sound : s.Sound)
    (calm : Script.Calm s.shared.world)
    (scripted : ∀ w, s.poller.active? = some w → w.Scripted) : s.Answered Script.mailboxes := by
  suffices kept : ∀ later s', System.Run Script.mailboxes s later s' →
      (∀ t ∈ later, t.move.beside = true) → s'.Sound ∧ Script.Calm s'.shared.world ∧
        (∀ w, s'.poller.active? = some w → w.Scripted) ∧ ∀ t ∈ later, ¬t.Panics from
    fun later s' run beside => (kept later s' run beside).2.2.2
  intro later s' run beside
  induction run with
  | nil => exact ⟨sound, calm, scripted, by simp⟩
  | @cons h s₁ move s₂ past step ih =>
    obtain ⟨outer, before⟩ := List.forall_mem_cons.1 beside
    obtain ⟨sound₁, calm₁, scripted₁, alive⟩ := ih before
    have sound₂ := sound₁.step step
    cases step with
    | work goes =>
      obtain ⟨w, r, made, put, turned⟩ := sound₁.turned goes
      obtain ⟨active, now, same⟩ := turned.worked.active
      obtain ⟨harmless, still⟩ := Worker.step_harmless (scripted₁ w active) calm₁ turned.step
      refine ⟨sound₂, ?_, fun v here => ?_, List.forall_mem_cons.2 ⟨?_, alive⟩⟩
      · rw [System.shared, same]
        exact still
      · obtain rfl := Option.some.inj (now.symm.trans here)
        exact harmless
      · rintro ⟨-, v, message, here, died⟩
        obtain rfl := Option.some.inj (now.symm.trans here)
        simp [Scripted, died] at harmless
    | pass ms =>
      exact ⟨sound₂, calm₁, scripted₁, List.forall_mem_cons.2 ⟨by simp [Transition.Panics], alive⟩⟩
    | setClock t =>
      exact ⟨sound₂, calm₁, scripted₁, List.forall_mem_cons.2 ⟨by simp [Transition.Panics], alive⟩⟩
    | tell event =>
      exact ⟨sound₂, calm₁, scripted₁, List.forall_mem_cons.2 ⟨by simp [Transition.Panics], alive⟩⟩
    | _ => cases outer

end Scripted

end MailRound.Poller
