import MailRound.Proofs.Poller.Moves

namespace MailRound.Poller

variable {ω φ : Type}

/-- What has become of the latest selection. -/
inductive Stage where
  | pending
  | queued
  | polling
  | polled
  deriving DecidableEq

namespace Stage

def Holds (h : History ω φ) (s : System ω φ) (a : Account) : Stage → Prop
  | pending =>
    s.poller.worker = none ∧ s.shared.pending = true ∧ s.shared.processing = false ∧
      h.begunSince = []
  | queued => ∃ w, s.poller.worker = some w ∧ w.finished = false ∧ w.signal = true ∧
      s.shared.processing = true ∧ h.begunSince = []
  | polling => ∃ w c, s.poller.worker = some w ∧ w.cycle? = some c ∧ c.account = a ∧
      c.generation = s.shared.cycle ∧ w.signal = false ∧ s.shared.processing = true ∧
      h.begunSince = [a]
  | polled => ∃ w, s.poller.worker = some w ∧ w.phase = .idle ∧ w.signal = false ∧
      s.shared.processing = false ∧ h.begunSince = [a]

/-- What tells the stages apart: whether there is a worker, whether the flag is up, and which cycles
have begun. -/
def signs (a : Account) : Stage → Bool × Bool × List Account
  | pending => (false, false, [])
  | queued => (true, true, [])
  | polling => (true, true, [a])
  | polled => (true, false, [a])

variable {h : History ω φ} {s : System ω φ} {a : Account} {x y : Stage}

theorem Holds.signs (holds : x.Holds h s a) :
    (s.poller.worker.isSome, s.shared.processing, h.begunSince) = x.signs a := by
  cases x with
  | pending =>
    obtain ⟨absent, -, flag, begun⟩ := holds
    rw [absent, flag, begun]
    rfl
  | queued =>
    obtain ⟨w, here, -, -, flag, begun⟩ := holds
    rw [here, flag, begun]
    rfl
  | polling =>
    obtain ⟨w, c, here, -, -, -, -, flag, begun⟩ := holds
    rw [here, flag, begun]
    rfl
  | polled =>
    obtain ⟨w, here, -, -, flag, begun⟩ := holds
    rw [here, flag, begun]
    rfl

theorem Holds.unique (hx : x.Holds h s a) (hy : y.Holds h s a) : x = y := by
  have same := hx.signs.symm.trans hy.signs
  cases x <;> cases y <;> first | rfl | simp [Stage.signs] at same

end Stage

namespace Worker

variable {s : Shared ω} {w : Worker φ} {r : Step ω φ} {made : List Call} {put : List Message}
  {a : Account} {c : Cycle}

/-- A step after which the cycle of a selection goes on with the flag up, or is over with the flag
down. -/
def Advances (a : Account) (generation : Nat) (r : Step ω φ) : Prop :=
  r.2.signal = false ∧
    ((∃ c, r.2.cycle? = some c ∧ c.account = a ∧ c.generation = generation ∧
        r.1.processing = true) ∨
      r.2.phase = .idle ∧ r.1.processing = false)

theorem Goes.advances (goes : Goes s w c r) (go : w.stop = false) (signal : w.signal = false)
    (busy : s.processing = true) : Advances c.account c.generation r := by
  cases goes with
  | rests self flag =>
    rw [signal, go] at flag
    exact ⟨by rw [self]; exact signal, .inr ⟨by rw [self], flag⟩⟩
  | goesOn phase c' self inside account generation flag =>
    exact ⟨by rw [self]; exact signal, .inl ⟨c', inside, account, generation, flag.trans busy⟩⟩

/-- While a signal waits behind an old cycle, the flag stays up. -/
theorem Goes.waits (goes : Goes s w c r) (signal : w.signal = true) (busy : s.processing = true) :
    r.2.signal = true ∧ r.1.processing = true := by
  cases goes with
  | rests self flag =>
    rw [signal] at flag
    exact ⟨by rw [self]; exact signal, flag.trans busy⟩
  | goesOn phase c' self inside account generation flag =>
    exact ⟨by rw [self]; exact signal, flag.trans busy⟩

/-- A signal waits until the worker takes it, and then the account under the cursor is polled. -/
theorem Turn.queued (turn : Turn s w made put r) (fits : w.Fits s) (signal : w.signal = true)
    (busy : s.processing = true) (current : s.cursor.current? = some a)
    (alive : r.2.finished = false) :
    w.begins? s = none ∧ r.2.signal = true ∧ r.1.processing = true ∨
      w.begins? s = some a ∧ Advances a s.cycle r := by
  cases turn with
  | wakes fresh self flag quiet empty =>
    exact .inl ⟨by simp [begins?, fresh], by rw [self]; exact signal, flag.trans busy⟩
  | exits idle why self flag quiet empty =>
    rw [fits.running, fits.accepting] at why
    simp at why
  | skips idle go _ unselected self flag quiet empty =>
    rw [current] at unselected
    cases unselected
  | begins account selected goes calls empty =>
    have chosen := (begins?_eq_some.1 selected).2.2.2
    obtain rfl := Option.some.inj (current.symm.trans chosen)
    exact .inr ⟨selected, goes.advances fits.running rfl busy⟩
  | lands c batch fetched goes taken =>
    exact .inl ⟨begins?_of_cycle? (cycle?_of_batch? fetched), goes.waits signal busy⟩
  | goesOn c inside other goes calls unmarked empty =>
    exact .inl ⟨begins?_of_cycle? inside, goes.waits signal busy⟩
  | dies c inside other message self flag quiet empty => simp [self, finished] at alive

theorem Turn.polling (turn : Turn s w made put r) (fits : w.Fits s) (inside : w.cycle? = some c)
    (signal : w.signal = false) (busy : s.processing = true) (alive : r.2.finished = false) :
    Advances c.account c.generation r := by
  cases turn with
  | wakes fresh self flag quiet empty => simp [cycle?, fresh] at inside
  | exits idle why self flag quiet empty => simp [cycle?, idle] at inside
  | skips idle go _ unselected self flag quiet empty => simp [cycle?, idle] at inside
  | begins account selected goes calls empty =>
    rw [begins?_of_cycle? inside] at selected
    cases selected
  | lands d batch fetched goes taken =>
    obtain rfl := Option.some.inj (inside.symm.trans (cycle?_of_batch? fetched))
    exact goes.advances fits.running signal busy
  | goesOn d within other goes calls unmarked empty =>
    obtain rfl := Option.some.inj (inside.symm.trans within)
    exact goes.advances fits.running signal busy
  | dies d within other message self flag quiet empty => simp [self, finished] at alive

end Worker

namespace System

variable {m : Mailboxes ω φ} {start s s' : System ω φ} {h : History ω φ} {p : Poller ω φ}

def Alive (s : System ω φ) : Prop := ∀ w, s.poller.worker = some w → w.finished = false

theorem alive_selection {q : Poller ω φ} {result : Bool × Poller ω φ}
    (selection : Selection q result) (alive : ∀ w, q.worker = some w → w.finished = false) :
    Alive ⟨result.2, none⟩ := by
  cases selection with
  | exhausted log past => exact alive
  | deferred log chosen absent => exact alive
  | signalled log chosen w here =>
    intro v there
    rw [← Option.some.inj there]
    exact alive w here

theorem Alive.starting {auto : Bool} (alive : s.Alive) (starting : Starting s.poller auto p) :
    Alive ⟨p, none⟩ := by
  cases starting with
  | running log live => exact alive
  | resumed log dead pending selected =>
    intro w here
    rw [← Option.some.inj here]
    rfl
  | waiting log dead nothing =>
    intro w here
    rw [← Option.some.inj here]
    rfl
  | selecting dead =>
    obtain ⟨log, selection⟩ := auto_selection s.poller
    refine alive_selection selection fun w here => ?_
    rw [← Option.some.inj here]
    rfl

theorem Alive.step {move : Move} (sound : s.Sound) (alive : s.Alive) (step : Step m s move s')
    (calm : ¬ Transition.Panics ⟨move, s, s'⟩) : s'.Alive := by
  have sound' := sound.step step
  cases step with
  | start auto free =>
    rw [update_of_free free]
    exact alive.starting (start_starting s.poller auto)
  | next free =>
    rw [update_of_free free]
    exact alive_selection sound.selection alive
  | reset free =>
    intro w here
    obtain ⟨v, there, rfl⟩ := Option.map_eq_some_iff.1 here
    exact alive v there
  | stop free found =>
    intro w here
    rw [stop_eq found] at here
    cases here
  | @stopEnds serial deadline waits ended =>
    intro w here
    obtain ⟨status, log, released⟩ := release_eq s.poller serial
    rw [released] at here
    exact alive w here
  | @work p goes =>
    intro w here
    have present := (sound'.installed w here).here
    unfold Worker.finished
    split
    · rename_i exited
      exact absurd exited present
    · rename_i message panicked
      exact absurd ⟨rfl, w, message, active?_of_worker here, panicked⟩ calm
    · rfl
  | _ => exact alive

theorem begunSince_cons (t : Transition ω φ) (h : History ω φ) :
    History.begunSince (t :: h) =
      if t.interrupts then [] else t.begins?.toList ++ h.begunSince := by
  cases interrupts : t.interrupts with
  | true => simp [History.begunSince, interrupts]
  | false => cases begins : t.begins? <;> simp [History.begunSince, interrupts, begins]

theorem selected?_cons (t : Transition ω φ) (h : History ω φ) :
    History.selected? (t :: h) = if t.interrupts then t.chosen? else h.selected? := by
  cases interrupts : t.interrupts <;> simp [History.selected?, interrupts]

/-- The latest selection is in one of the stages, and its account is under the cursor. -/
def Staged (h : History ω φ) (s : System ω φ) : Prop :=
  ∀ a, h.selected? = some a →
    s.shared.cursor.current? = some a ∧ ∃ stage : Stage, stage.Holds h s a

theorem Staged.frame {t : Transition ω φ} (staged : Staged h t.before)
    (harmless : t.interrupts = false) (none : t.begins? = none)
    (worker : t.after.poller.worker = t.before.poller.worker)
    (cursor : t.after.shared.cursor = t.before.shared.cursor)
    (cycle : t.after.shared.cycle = t.before.shared.cycle)
    (pending : t.after.shared.pending = t.before.shared.pending)
    (flag : t.after.shared.processing = t.before.shared.processing) : Staged (t :: h) t.after := by
  intro a selected
  rw [selected?_cons, harmless] at selected
  obtain ⟨current, stage, holds⟩ := staged a selected
  have begun : History.begunSince (t :: h) = h.begunSince := by
    simp [begunSince_cons, harmless, none]
  refine ⟨cursor ▸ current, stage, ?_⟩
  cases stage with
  | pending => rwa [Stage.Holds, worker, pending, flag, begun]
  | queued => rwa [Stage.Holds, worker, flag, begun]
  | polling => rwa [Stage.Holds, worker, cycle, flag, begun]
  | polled => rwa [Stage.Holds, worker, flag, begun]

theorem staged_selection {q : Poller ω φ} {result : Bool × Poller ω φ} {move : Move}
    (selection : Selection q result) (alive : ∀ w, q.worker = some w → w.finished = false)
    (unattended : q.worker = none → q.shared.processing = false)
    (returned : Transition.returned? ⟨move, s, ⟨result.2, none⟩⟩ = some result.1)
    (interrupts : Transition.interrupts ⟨move, s, ⟨result.2, none⟩⟩ = true) :
    Staged (⟨move, s, ⟨result.2, none⟩⟩ :: h) ⟨result.2, none⟩ := by
  intro a selected
  rw [selected?_cons, interrupts, if_pos rfl, Transition.chosen?, returned] at selected
  have begun : History.begunSince (⟨move, s, ⟨result.2, none⟩⟩ :: h) = [] := by
    simp [begunSince_cons, interrupts]
  cases selection with
  | exhausted log past => simp at selected
  | deferred log chosen absent =>
    exact ⟨by simpa using selected, .pending, absent, rfl, unattended absent, begun⟩
  | signalled log chosen w here =>
    exact ⟨by simpa using selected, .queued, _, rfl, alive w here, rfl, rfl, begun⟩

theorem Staged.starting {auto : Bool} (alive : s.Alive) (staged : Staged h s)
    (starting : Starting s.poller auto p) :
    Staged (⟨.start auto, s, ⟨p, none⟩⟩ :: h) ⟨p, none⟩ := by
  have absent (dead : s.poller.hasLiveWorker = false) : s.poller.worker = none := by
    cases here : s.poller.worker with
    | none => rfl
    | some w => simp [hasLiveWorker, here, alive w here] at dead
  -- Without a worker the selection can only be pending.
  have waits {a : Account} (dead : s.poller.hasLiveWorker = false)
      (selected : h.selected? = some a) :
      s.shared.cursor.current? = some a ∧ s.shared.pending = true ∧ h.begunSince = [] := by
    obtain ⟨current, stage, holds⟩ := staged a selected
    have signs := holds.signs
    rw [absent dead] at signs
    cases stage with
    | pending => exact ⟨current, holds.2.1, holds.2.2.2⟩
    | queued => simp [Stage.signs] at signs
    | polling => simp [Stage.signs] at signs
    | polled => simp [Stage.signs] at signs
  cases starting with
  | running log live =>
    refine staged.frame ?_ rfl rfl rfl rfl rfl rfl
    simp [Transition.interrupts, Transition.clears, Transition.selects, live]
  | resumed log dead pending chosen =>
    intro a selected
    obtain ⟨current, -, begun⟩ := waits dead selected
    exact ⟨current, .queued, _, rfl, rfl, rfl, rfl, begun⟩
  | waiting log dead nothing =>
    intro a selected
    obtain ⟨current, pending, -⟩ := waits dead selected
    simp [pending, current] at nothing
  | selecting dead =>
    obtain ⟨log, selection⟩ := auto_selection s.poller
    refine staged_selection selection ?_ (by simp [manned]) ?_ ?_
    · intro w here
      rw [← Option.some.inj here]
      rfl
    · simp [Transition.returned?, Transition.selects, dead]
    · simp [Transition.interrupts, Transition.clears, Transition.selects, dead]

theorem stage_of_advances {r : Worker.Step ω φ} {a : Account} {t : Transition ω φ}
    (installed : t.after.poller.worker = some r.2) (shared : t.after.shared = r.1)
    (cycle : r.1.cycle = t.before.shared.cycle)
    (advances : Worker.Advances a t.before.shared.cycle r)
    (begun : History.begunSince (t :: h) = [a]) :
    ∃ stage : Stage, stage.Holds (t :: h) t.after a := by
  obtain ⟨signal, ⟨c, inside, account, generation, flag⟩ | ⟨idle, flag⟩⟩ := advances
  · refine ⟨.polling, r.2, c, installed, inside, account, ?_, signal, ?_, begun⟩
    · rw [shared, cycle, generation]
    · rw [shared, flag]
  · exact ⟨.polled, r.2, installed, idle, signal, by rw [shared, flag], begun⟩

theorem Staged.work (sound : s.Sound) (staged : Staged h s) (goes : s.poller.stepWorker m = some p)
    (alive : Alive { s with poller := p }) :
    Staged (⟨.work, s, { s with poller := p }⟩ :: h) { s with poller := p } := by
  obtain ⟨w, r, made, put, turned⟩ := sound.turned goes
  have stays := turned.effect.stays
  have active := turned.worked.active.1
  have begun := begunSince_cons ⟨.work, s, { s with poller := p }⟩ h
  rw [turned.begins?,
    show Transition.interrupts ⟨.work, s, { s with poller := p }⟩ = false from rfl,
    if_neg (by simp)] at begun
  cases turned.worked with
  | leaving absent there =>
    have none : w.begins? s.shared = none := by
      cases begins : w.begins? s.shared with
      | none => rfl
      | some a => simp [(sound.begins active begins).1] at absent
    obtain ⟨here, -⟩ | ⟨-, leaves⟩ := sound.active active
    · simp [here] at absent
    · exact staged.frame rfl (turned.begins?.trans none) rfl stays.cursor stays.cycle stays.pending
        (leaves.turn turned.effect turned.turn).2
  | installed free here =>
    have fits := sound.installed w here
    have lives := alive r.2 rfl
    intro a selected
    obtain ⟨current, stage, holds⟩ := staged a selected
    refine ⟨(congrArg _ stays.cursor).trans current, ?_⟩
    cases stage with
    | pending =>
      have absent := holds.1
      simp [here] at absent
    | queued =>
      obtain ⟨v, there, -, signal, busy, before⟩ := holds
      obtain rfl := Option.some.inj (here.symm.trans there)
      rw [before, List.append_nil] at begun
      obtain ⟨none, signal', busy'⟩ | ⟨begins, advances⟩ :=
        turned.turn.queued fits signal busy current lives
      · rw [none] at begun
        exact ⟨.queued, r.2, rfl, lives, signal', busy', begun⟩
      · rw [begins] at begun
        exact stage_of_advances rfl rfl stays.cycle advances begun
    | polling =>
      obtain ⟨v, c, there, inside, account, generation, signal, busy, before⟩ := holds
      obtain rfl := Option.some.inj (here.symm.trans there)
      rw [before, Worker.begins?_of_cycle? inside] at begun
      have advances := turned.turn.polling fits inside signal busy lives
      rw [account, generation] at advances
      exact stage_of_advances rfl rfl stays.cycle advances begun
    | polled =>
      -- An idle worker without a signal has no step to make.
      obtain ⟨v, there, idle, signal, -, -⟩ := holds
      obtain rfl := Option.some.inj (here.symm.trans there)
      have step := turned.step
      simp [Worker.step, idle, signal, fits.running, fits.accepting] at step

theorem Staged.step {move : Move} (sound : s.Sound) (alive : s.Alive) (staged : Staged h s)
    (step : Step m s move s') (alive' : s'.Alive) : Staged (⟨move, s, s'⟩ :: h) s' := by
  have vacuous {t : Transition ω φ} (interrupts : t.interrupts = true) (none : t.chosen? = none) :
      Staged (t :: h) s' := by
    intro a selected
    rw [selected?_cons, interrupts, if_pos rfl, none] at selected
    cases selected
  cases step with
  | start auto free =>
    rw [update_of_free free] at *
    exact staged.starting alive (start_starting s.poller auto)
  | next free =>
    rw [update_of_free free] at *
    exact staged_selection sound.selection alive sound.unattended rfl rfl
  | reset free => exact vacuous rfl rfl
  | stopIdle free absent =>
    exact staged.frame (by simp [Transition.interrupts, absent]) rfl rfl rfl rfl rfl rfl
  | stop free found => exact vacuous (by simp [Transition.interrupts, found]) rfl
  | @stopEnds serial deadline waits ended =>
    obtain ⟨status, log, released⟩ := release_eq s.poller serial
    rw [released]
    exact staged.frame rfl rfl rfl rfl rfl rfl rfl
  | work goes => exact staged.work sound goes alive'
  | _ => exact staged.frame rfl rfl rfl rfl rfl rfl rfl

theorem Run.staged (run : Run m start h s) (sound : start.Sound) (alive : start.Alive)
    (calm : ∀ t ∈ h, ¬ t.Panics) : s.Alive ∧ Staged h s := by
  induction run with
  | nil => exact ⟨alive, by simp [Staged, History.selected?]⟩
  | cons past step ih =>
    obtain ⟨lives, staged⟩ := ih fun t ht => calm t (List.mem_cons_of_mem _ ht)
    have lives' := lives.step (past.sound sound) step (calm _ List.mem_cons_self)
    exact ⟨lives', staged.step (past.sound sound) lives step lives'⟩

end System

/-- As long as no call takes a worker down, the account of the latest selection is under the cursor
and its selection is in exactly one stage. -/
theorem selection_in_one_stage {m : Mailboxes ω φ} {roster : Roster} {defaults : Polling}
    {world : ω} {clock : Calendar.Instant} {h : History ω φ} {s : System ω φ} {a : Account}
    (run : System.Run m (System.new roster defaults world clock) h s)
    (calm : ∀ t ∈ h, ¬ t.Panics) (selected : h.selected? = some a) :
    s.shared.cursor.current? = some a ∧ ∃! stage : Stage, stage.Holds h s a := by
  have sound : (System.new roster defaults world clock : System ω φ).Sound :=
    System.sound_new roster defaults world clock
  obtain ⟨-, staged⟩ := run.staged sound (by simp [System.Alive, System.new, Poller.new]) calm
  obtain ⟨current, stage, holds⟩ := staged a selected
  exact ⟨current, stage, holds, fun other h' => h'.unique holds⟩

theorem Transition.not_panics {t : Transition ω φ} {w : Worker φ}
    (active : t.after.poller.active? = some w) (alive : w.finished = false) : ¬ t.Panics := by
  rintro ⟨-, v, message, active', phase⟩
  obtain rfl := Option.some.inj (active.symm.trans active')
  simp [Worker.finished, phase] at alive

theorem selection_in_one_stage_single :
    ∃ (h : History Script.Scripts Script.Step) (s : System Script.Scripts Script.Step)
      (a : Account),
      System.Run Script.mailboxes .single h s ∧ h.selected? = some a ∧ Stage.polling.Holds h s a ∧
        ∃! stage : Stage, stage.Holds h s a := by
  have run : System.Run Script.mailboxes .single [] .single := .nil
  have run := run.cons (.start true rfl) |>.cons (.work rfl) |>.cons (.work rfl)
  obtain ⟨-, stage⟩ := selection_in_one_stage run
    (List.forall_mem_cons.2 ⟨Transition.not_panics rfl rfl,
      List.forall_mem_cons.2 ⟨Transition.not_panics rfl rfl,
        List.forall_mem_singleton.2 (Transition.not_panics rfl rfl)⟩⟩) rfl
  exact ⟨_, _, _, run, rfl, ⟨_, _, rfl, rfl, rfl, rfl, rfl, rfl, rfl⟩, stage⟩

end MailRound.Poller
