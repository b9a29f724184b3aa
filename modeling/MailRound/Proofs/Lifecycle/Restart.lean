import MailRound.Proofs.Lifecycle.Answers

namespace MailRound.Poller

variable {ω φ : Type}

/-- A start without a selection puts a new worker in the place of a dead one, and leaves the flag
up. -/
def Transition.strands (t : Transition ω φ) : Bool :=
  match t.move with
  | .start false => t.before.poller.worker.any (·.finished) && t.before.shared.processing
  | _ => false

/-- This has happened since the latest selection, reset or stop. -/
def History.stranded (h : History ω φ) : Bool :=
  (h.takeWhile fun t => !t.interrupts).any (·.strands)

theorem stranded_cons (t : Transition ω φ) (h : History ω φ) :
    History.stranded (t :: h) = (!t.interrupts && (t.strands || h.stranded)) := by
  cases interrupts : t.interrupts <;> simp [History.stranded, interrupts]

theorem stranded_of_beside (later : History ω φ) (beside : ∀ t ∈ later, t.move.beside = true)
    (h : History ω φ) : History.stranded (later ++ h) = h.stranded := by
  induction later with
  | nil => rfl
  | cons t later ih =>
    obtain ⟨here, rest⟩ := List.forall_mem_cons.1 beside
    have still : t.interrupts = false ∧ t.strands = false := by
      cases move : t.move <;> simp_all [Move.beside, Transition.interrupts, Transition.clears,
        Transition.selects, Transition.strands]
    rw [List.cons_append, stranded_cons, still.1, still.2, ih rest]
    rfl

theorem any_finished (p : Poller ω φ) : p.worker.any (·.finished) =
    (p.worker.isSome && !p.hasLiveWorker) := by
  cases here : p.worker <;> simp [hasLiveWorker, here]

theorem Starting.live {auto : Bool} {p p' : Poller ω φ} (starting : Starting p auto p') :
    ∃ w, p'.worker = some w ∧ w.finished = false := by
  cases starting with
  | running log live =>
    cases here : p.worker with
    | none => simp [hasLiveWorker, here] at live
    | some w => exact ⟨w, rfl, by simpa [hasLiveWorker, here] using live⟩
  | resumed log dead pending selected => exact ⟨_, rfl, rfl⟩
  | waiting log dead nothing => exact ⟨_, rfl, rfl⟩
  | selecting dead =>
    obtain ⟨log, selection⟩ := auto_selection p
    generalize (p.installWorker true).next = result at selection
    cases selection with
    | exhausted log' past => exact ⟨_, rfl, rfl⟩
    | deferred log' chosen absent => simp [manned] at absent
    | signalled log' chosen w here =>
      obtain rfl := Option.some.inj here
      exact ⟨_, rfl, rfl⟩

/-- A selection leaves the flag up only for a worker with a signal. -/
theorem Selection.busy {p : Poller ω φ} {result : Bool × Poller ω φ} {w : Worker φ}
    (selection : Selection p result) (here : result.2.worker = some w)
    (up : result.2.shared.processing = true) : w.Busy := by
  cases selection with
  | exhausted log past => cases up
  | deferred log chosen absent => cases absent.symm.trans here
  | signalled log chosen v there =>
    obtain rfl := Option.some.inj here
    exact .inl rfl

/-- An installed worker with nothing to do can only wake up. -/
theorem Worker.Turn.wakes_of_not_busy {s : Shared ω} {w : Worker φ} {made : List Call}
    {put : List Message} {r : Worker.Step ω φ} (turn : Turn s w made put r) (fits : w.Fits s)
    (rests : ¬w.Busy) : r.2 = { w with phase := .idle } ∧ r.1.processing = s.processing := by
  have outside {c : Cycle} (inside : w.cycle? = some c) : False :=
    rests (.inr (by rw [inside]; rfl))
  cases turn with
  | wakes fresh self flag quiet empty => exact ⟨self, flag⟩
  | exits idle why self flag quiet empty => simp [fits.running, fits.accepting] at why
  | skips idle go signal unselected self flag quiet empty => exact absurd (.inl signal) rests
  | begins account selected goes calls empty =>
    exact absurd (.inl (begins?_eq_some.1 selected).2.2.1) rests
  | lands c batch fetched goes taken => exact (outside (cycle?_of_batch? fetched)).elim
  | goesOn c inside other goes calls unmarked empty => exact (outside inside).elim
  | dies c inside other message self flag quiet empty => exact (outside inside).elim

namespace System

variable {m : Mailboxes ω φ} {s s' : System ω φ} {h : History ω φ} {w : Worker φ}

/-- Who looks after a flag that is up. -/
structure Watched (h : History ω φ) (s : System ω φ) : Prop where
  stranded : h.stranded = true → s.shared.processing = true ∧
    ∃ w, s.poller.worker = some w ∧ w.finished = false ∧ ¬w.Busy
  attended : h.stranded = false → ∀ w, s.poller.worker = some w → w.finished = false →
    s.shared.processing = true → w.Busy

theorem Watched.not_stranded (watched : Watched h s)
    (idle : s.poller.worker = none ∨ s.shared.processing = false) : h.stranded = false := by
  cases stranded : h.stranded with
  | false => rfl
  | true =>
    obtain ⟨up, w, here, -⟩ := watched.stranded stranded
    simp [here, up] at idle

theorem Watched.frame {t : Transition ω φ} (watched : Watched h t.before)
    (still : t.interrupts = false) (harmless : t.strands = false)
    (worker : t.after.poller.worker = t.before.poller.worker)
    (flag : t.after.shared.processing = t.before.shared.processing) :
    Watched (t :: h) t.after := by
  have same : History.stranded (t :: h) = h.stranded := by simp [stranded_cons, still, harmless]
  constructor
  · rw [same, worker, flag]
    exact watched.stranded
  · rw [same, worker, flag]
    exact watched.attended

theorem Watched.busy {t : Transition ω φ} (fresh : History.stranded (t :: h) = false)
    (busy : ∀ w, t.after.poller.worker = some w → t.after.shared.processing = true → w.Busy) :
    Watched (t :: h) t.after :=
  ⟨fun stranded => by simp [fresh] at stranded, fun _ w here _ => busy w here⟩

theorem Watched.starting {auto : Bool} {p : Poller ω φ} (sound : s.Sound) (watched : Watched h s)
    (starting : Starting s.poller auto p) :
    Watched (⟨.start auto, s, ⟨p, none⟩⟩ :: h) ⟨p, none⟩ := by
  cases starting with
  | running log live =>
    refine watched.frame ?_ ?_ rfl rfl
    · simp [Transition.interrupts, Transition.clears, Transition.selects, live]
    · cases auto <;> simp [Transition.strands, any_finished, live]
  | resumed log dead pending selected =>
    -- A selection waits only where there was no worker.
    have absent := (sound.pending pending).1
    have before := watched.not_stranded (.inl absent)
    refine .busy ?_ fun w here _ => ?_
    · simp [stranded_cons, Transition.strands, absent, before]
    · obtain rfl := Option.some.inj here
      exact .inl rfl
  | waiting log dead nothing =>
    have idle : History.stranded (⟨.start false, s, ⟨{ s.poller.manned log with
        shared := { (s.poller.manned log).shared with pending := false } }, none⟩⟩ :: h) =
        (s.poller.worker.isSome && s.shared.processing || h.stranded) := by
      simp [stranded_cons, Transition.interrupts, Transition.clears, Transition.selects,
        Transition.strands, any_finished, dead]
    cases up : s.shared.processing with
    | false =>
      have before := watched.not_stranded (.inr up)
      refine .busy (by simp [idle, up, before]) fun w here flag => ?_
      cases up.symm.trans flag
    | true =>
      have here : s.poller.worker.isSome = true := by
        cases absent : s.poller.worker with
        | none => cases up.symm.trans (sound.unattended absent)
        | some w => rfl
      refine ⟨fun _ => ⟨up, _, rfl, rfl, ?_⟩, fun none => ?_⟩
      · simp [Worker.Busy, Worker.spawn, Worker.cycle?]
      · simp [idle, here, up] at none
  | selecting dead =>
    obtain ⟨log, selection⟩ := auto_selection s.poller
    refine .busy ?_ fun w => selection.busy
    simp [stranded_cons, Transition.interrupts, Transition.clears, Transition.selects, dead]

theorem Watched.work {p : Poller ω φ} (sound : s.Sound) (watched : Watched h s)
    (goes : s.poller.stepWorker m = some p) :
    Watched (⟨.work, s, { s with poller := p }⟩ :: h) { s with poller := p } := by
  obtain ⟨w, r, made, put, turned⟩ := sound.turned goes
  have same : History.stranded (⟨.work, s, { s with poller := p }⟩ :: h) = h.stranded := by
    simp [stranded_cons, Transition.interrupts, Transition.clears, Transition.selects,
      Transition.strands]
  cases turned.worked with
  | installed free here =>
    have fits := sound.installed w here
    constructor
    · intro stranded
      obtain ⟨up, v, there, -, rests⟩ := watched.stranded (same ▸ stranded)
      obtain rfl := Option.some.inj (here.symm.trans there)
      obtain ⟨self, flag⟩ := turned.turn.wakes_of_not_busy fits rests
      refine ⟨flag.trans up, r.2, rfl, by rw [self]; rfl, ?_⟩
      rw [self]
      exact fun busy => rests (.inl (busy.resolve_right (by simp [Worker.cycle?])))
    · intro calm v now alive up
      obtain rfl := Option.some.inj now
      have unharmed (message : String) : r.2.phase ≠ .panicked message := fun died => by
        simp [Worker.finished, died] at alive
      obtain busy | ⟨before, still⟩ :=
        (turned.turn.tends fits.running fits.accepting unharmed).2 up
      · exact busy
      · refine still (watched.attended (same ▸ calm) w here ?_ before)
        cases ended : w.finished with
        | false => rfl
        | true =>
          have step := turned.step
          unfold Worker.finished at ended
          unfold Worker.step at step
          cases phase : w.phase <;> simp_all
  | leaving absent there =>
    have before := watched.not_stranded (.inl absent)
    exact .busy (same.trans before) fun v here => by cases absent.symm.trans here

theorem Watched.step {move : Move} (sound : s.Sound) (watched : Watched h s)
    (step : Step m s move s') : Watched (⟨move, s, s'⟩ :: h) s' := by
  cases step with
  | start auto free =>
    rw [update_of_free free]
    exact watched.starting sound (start_starting s.poller auto)
  | next free =>
    exact .busy (by simp [stranded_cons, Transition.interrupts, Transition.clears,
      Transition.selects]) fun w => sound.selection.busy
  | reset free =>
    refine .busy (by simp [stranded_cons, Transition.interrupts, Transition.clears])
      fun w here up => ?_
    cases up
  | stopIdle free absent =>
    exact watched.frame (by simp [Transition.interrupts, absent]) rfl rfl rfl
  | stop free found =>
    rw [stop_eq found]
    refine .busy (by simp [stranded_cons, Transition.interrupts, found]) fun w here => ?_
    cases here
  | @stopEnds serial deadline waits ended =>
    obtain ⟨status, log, released⟩ := release_eq s.poller serial
    rw [released]
    exact watched.frame rfl rfl rfl rfl
  | work goes => exact watched.work sound goes
  | getMessage free => exact watched.frame rfl rfl rfl rfl
  | getLastMessage free => exact watched.frame rfl rfl rfl rfl
  | waitEnds free done => exact watched.frame rfl rfl rfl rfl
  | waitTimesOut limit free busy => exact watched.frame rfl rfl rfl rfl
  | pass ms => exact watched.frame rfl rfl rfl rfl
  | setClock t => exact watched.frame rfl rfl rfl rfl
  | tell event => exact watched.frame rfl rfl rfl rfl

variable {roster : Roster} {defaults : Polling} {world : ω} {clock : Calendar.Instant}

theorem Run.watched (run : Run m (.new roster defaults world clock) h s) : Watched h s := by
  induction run with
  | nil => exact ⟨fun stranded => (nomatch stranded), fun _ _ here => (nomatch here)⟩
  | cons past step ih => exact ih.step (past.sound (sound_new roster defaults world clock)) step

/-- If calls come back and the worker looks after the flag, the flag comes down. -/
theorem Run.completes (run : Run m (.new roster defaults world clock) h s)
    (answered : s.Answered m) (attended : h.stranded = false)
    (live : ∃ w, s.poller.worker = some w ∧ w.finished = false) : Completes m s.poller := by
  -- By induction on the effort: a step lessens it, and after a jump in time there is a step.
  induction effort : s.poller.effort using Nat.strongRecOn generalizing s h with
  | ind n ih =>
  have sound := run.sound (sound_new roster defaults world clock)
  obtain ⟨w, here, alive⟩ := live
  cases goes : s.poller.stepWorker m with
  | some p =>
    obtain ⟨calm, answered'⟩ := answered.step (.work goes) rfl
    refine .of_step (ih _ (effort ▸ sound.lessens goes) (.cons run (.work goes)) answered' ?_
      (sound.lives goes calm here) rfl) sound goes
    exact (stranded_of_beside [_] (by simp [Move.beside]) h).trans attended
  | none =>
    cases up : s.poller.shared.processing with
    | false => exact completes_of_down goes up
    | true =>
      have busy := run.watched.attended attended w here alive up
      have still := sound.stuck.1 goes w (active?_of_worker here)
      obtain ⟨t, due, ahead⟩ : ∃ t, w.due? = some t ∧ s.shared.now < t := by
        obtain waits | ⟨outside, silent⟩ := Worker.waits_of_step_none still alive
        · exact waits
        · simp [Worker.Busy, outside, silent] at busy
      have nextDue : s.poller.nextDue = some t := by
        rw [sound.nextDue, active?_of_worker here]
        exact due
      have passes := Step.atTime (m := m) s (Nat.le_of_lt ahead)
      have later := sound.step passes
      obtain ⟨p, goes'⟩ := Option.isSome_iff_exists.1
        (later.goes_of_due (m := m) (active?_of_worker here) due (Nat.le_refl t))
      obtain ⟨-, answered₁⟩ := answered.step passes rfl
      obtain ⟨calm, answered'⟩ := answered₁.step (.work goes') rfl
      refine .of_due (ih _ (effort ▸ later.lessens goes') (.cons (.cons run passes) (.work goes'))
        answered' ?_ (later.lives goes' calm here) rfl) sound goes up nextDue ahead goes'
      exact (stranded_of_beside [_, _] (by simp [Move.beside]) h).trans attended

/-- While the flag is stranded, no wait comes back. -/
theorem Run.wait_of_stranded (run : Run m (.new roster defaults world clock) h s)
    (stranded : h.stranded = true) (limit : Nat) : (s.poller.wait m limit).1 = false := by
  obtain ⟨later, further, beside⟩ := elapses_runUntil (m := m) (fun p => !p.shared.processing)
    (s.shared.now + limit) s.poller.stepBound s
  have still := (stranded_of_beside _ beside h).trans stranded
  obtain ⟨up, -⟩ := run.watched.stranded stranded
  obtain ⟨up', -⟩ := (run.append further).watched.stranded still
  rw [← Bool.not_eq_true, wait_eq_true]
  rintro (down | down)
  · cases up.symm.trans down
  · cases up'.symm.trans down

end System

/-- After every start there is a worker that has not ended. The flag is up with nothing for it to do
exactly if a start has stranded the flag since the latest selection, reset or stop. Then no wait
comes back; otherwise one that is long enough does, provided that the calls to mailboxes come
back. -/
theorem restart_recovers_unless_stranded {m : Mailboxes ω φ} {roster : Roster}
    {defaults : Polling} {world : ω} {clock : Calendar.Instant} {h : History ω φ}
    {s s' : System ω φ} {auto : Bool}
    (run : System.Run m (System.new roster defaults world clock) h s)
    (step : System.Step m s (.start auto) s') :
    (∃ w, s'.poller.worker = some w ∧ w.finished = false ∧
      (s'.shared.processing = true ∧ ¬w.Busy ↔
        History.stranded (⟨.start auto, s, s'⟩ :: h) = true)) ∧
    (History.stranded (⟨.start auto, s, s'⟩ :: h) = true →
      ∀ limit, (s'.poller.wait m limit).1 = false) ∧
    (History.stranded (⟨.start auto, s, s'⟩ :: h) = false → s'.Answered m →
      ∃ limit, ∀ longer, limit ≤ longer → (s'.poller.wait m longer).1 = true) := by
  have run' := run.cons step
  have live : ∃ w, s'.poller.worker = some w ∧ w.finished = false := by
    cases step with
    | start auto free => exact (start_starting s.poller auto).live
  refine ⟨?_, run'.wait_of_stranded, fun attended answered => ?_⟩
  · obtain ⟨w, here, alive⟩ := live
    refine ⟨w, here, alive, fun ⟨up, rests⟩ => ?_, fun stranded => ?_⟩
    · by_contra attended
      exact rests (run'.watched.attended (by simpa using attended) w here alive up)
    · obtain ⟨up, v, there, -, rests⟩ := run'.watched.stranded stranded
      obtain rfl := Option.some.inj (here.symm.trans there)
      exact ⟨up, rests⟩
  · refine (run'.completes answered attended live).waits ?_
    exact run'.listed (System.sound_new roster defaults world clock)
      (System.listed_new roster defaults world clock)

/-- A poller with two accounts, whose worker is taken down when it connects for the first. -/
def System.fragile : System Script.Scripts Script.Step :=
  .new ⟨[⟨"home", "imap", true, none, [], .default, none⟩,
      ⟨"work", "imap", true, none, [], .default, none⟩]⟩ ⟨1, 0, 10⟩
    [("home", [{ Script.Step.empty with connect := ⟨0, none, true⟩ }]),
      ("work", [{ Script.Step.empty with
        fetch := ⟨900, none, false⟩, batch := [plainMessage "1"] }])]
    ⟨0, 0⟩

theorem System.fragile_dies : ∃ (h : History Script.Scripts Script.Step)
    (s : System Script.Scripts Script.Step), System.Run Script.mailboxes .fragile h s ∧
      s.stopping = none ∧ s.poller.worker.any (·.finished) = true ∧ s.shared.processing = true ∧
      (s.update (·.start true)).Answered Script.mailboxes := by
  have run : System.Run Script.mailboxes .fragile [] .fragile := .nil
  have run := run.cons (.start true rfl)
  have run := run.cons (.work rfl) |>.cons (.work rfl) |>.cons (.work rfl)
  have sound := (run.cons (.start true rfl)).sound (System.sound_new _ _ _ _)
  refine ⟨_, _, run, rfl, rfl, rfl, System.answered_of_calm sound (by decide +kernel) ?_⟩
  intro w here
  obtain rfl := Option.some.inj here
  trivial

theorem stranded_of_dead {s s' : System ω φ} (dead : s.poller.worker.any (·.finished) = true)
    (up : s.shared.processing = true) (h : History ω φ) :
    History.stranded (⟨.start false, s, s'⟩ :: h) = true := by
  simp [stranded_cons, Transition.interrupts, Transition.clears, Transition.selects,
    Transition.strands, dead, up]

/-- Started again without a selection, the poller with the dead worker waits forever; started with
one, it goes on with the second account, and a wait comes back. -/
theorem restart_recovers_unless_stranded_fragile :
    ∃ (h : History Script.Scripts Script.Step) (s : System Script.Scripts Script.Step),
      System.Run Script.mailboxes .fragile h s ∧ s.stopping = none ∧
        (∀ limit, ((s.poller.start false).wait Script.mailboxes limit).1 = false) ∧
        ∃ limit, ∀ longer, limit ≤ longer →
          ((s.poller.start true).wait Script.mailboxes longer).1 = true := by
  obtain ⟨h, s, run, free, dead, up, answered⟩ := System.fragile_dies
  have ended : s.poller.hasLiveWorker = false := by
    rw [any_finished, Bool.and_eq_true] at dead
    simpa using dead.2
  refine ⟨h, s, run, free, ?_, ?_⟩
  · exact (restart_recovers_unless_stranded run (.start false free)).2.1
      (stranded_of_dead dead up h)
  · refine (restart_recovers_unless_stranded run (.start true free)).2.2 ?_ answered
    simp [stranded_cons, Transition.interrupts, Transition.clears, Transition.selects, ended]

/-- Without that exception a start can leave the flag up with nobody to look after it. -/
theorem restart_not_always_recovers :
    ¬∀ (h : History Script.Scripts Script.Step) (s s' : System Script.Scripts Script.Step)
      (auto : Bool), System.Run Script.mailboxes .fragile h s →
        System.Step Script.mailboxes s (.start auto) s' → s'.shared.processing = true →
          ∃ w, s'.poller.worker = some w ∧ w.finished = false ∧ w.Busy := by
  intro always
  obtain ⟨h, s, run, free, dead, up, -⟩ := System.fragile_dies
  have step := System.Step.start (m := Script.mailboxes) false free
  obtain ⟨up', w, here, -, rests⟩ :=
    (run.cons step).watched.stranded (stranded_of_dead dead up h)
  obtain ⟨v, there, -, busy⟩ := always h s _ false run step up'
  obtain rfl := Option.some.inj (here.symm.trans there)
  exact rests busy

end MailRound.Poller
