import MailRound.Proofs.Lifecycle.Quiescence
import MailRound.Proofs.Lifecycle.Restart

namespace MailRound.Poller

variable {ω φ : Type}

/-- What should be told about a worker in a phase. -/
def Phase.report : Phase φ → Status
  | .fresh | .idle => .idle
  | .connecting c _ | .fetching c _ | .marking c _ _ | .disconnecting c _ _ | .pausing c _ =>
    .processing c.account.id
  | .exited | .panicked _ => .stopped

namespace Worker

variable {s : Shared ω} {w : Worker φ} {c : Cycle} {r : Step ω φ} {m : Mailboxes ω φ}
  {fetcher : φ}

theorem report_of_cycle? (inside : w.cycle? = some c) :
    w.phase.report = .processing c.account.id := by
  unfold cycle? at inside
  cases phase : w.phase <;> simp_all [Phase.report]

theorem report_eq_processing {id : String} :
    w.phase.report = .processing id ↔ ∃ c, w.cycle? = some c ∧ c.account.id = id := by
  cases phase : w.phase <;> simp [Phase.report, cycle?, phase]

def Reports (r : Step ω φ) : Prop := r.1.status = r.2.phase.report

theorem afterAttempt_reports (told : s.status = .processing c.account.id) (result : Attempt) :
    Reports (afterAttempt s w c result) := by
  unfold afterAttempt
  dsimp only
  split
  · split
    · exact told
    · rfl
  · rfl
  · rfl
  · split
    · exact told
    · rfl

theorem beginAttempt_reports (told : s.status = .processing c.account.id) :
    Reports (beginAttempt m s w c) := by
  unfold beginAttempt
  dsimp only
  split
  · rfl
  · split
    · rfl
    · split
      · refine afterAttempt_reports ?_ _
        exact told
      · exact told

theorem afterFetch_reports (told : s.status = .processing c.account.id)
    (result : Outcome (List Message)) : Reports (afterFetch m s w c fetcher result) := by
  cases result with
  | error why => exact told
  | ok batch =>
    cases batch with
    | nil => exact told
    | cons x xs =>
      obtain ⟨delivered, queue, log, taken⟩ := Shared.enqueueBatch_keeps (s.inform .info
        (c.label ++ " Fetched " ++ Text.decimal (x :: xs).length ++ " new email(s).")) c.account
        c.generation (x :: xs)
      have kept := congrArg Shared.status taken
      unfold afterFetch
      dsimp only
      split
      · exact kept.trans told
      · split
        · exact kept.trans told
        · exact kept.trans told

/-- A step that does not take the worker down keeps what is told true. -/
theorem step_reports (told : s.status = w.phase.report) (h : w.step m s = some r)
    (alive : r.2.isPanicked = false) : Reports r := by
  cases step_cases h with
  | wakes phase =>
    rw [phase] at told
    exact told
  | exits phase why => rfl
  | begins phase go signal =>
    unfold beginCycle
    split
    · rfl
    · exact beginAttempt_reports rfl
  | connects c f phase due result back =>
    rw [phase] at told
    cases result <;> exact told
  | fetches c f phase due result back =>
    rw [phase] at told
    exact afterFetch_reports told result
  | marks c f e phase due result back =>
    rw [phase] at told
    cases result <;> exact told
  | disconnects c f result phase due answer back =>
    rw [phase] at told
    exact afterAttempt_reports told result
  | abandons c due phase why => rfl
  | again c due phase come =>
    rw [phase] at told
    exact beginAttempt_reports told
  | dies message heard => cases alive

/-- A call takes a worker down inside a cycle, and nothing else happens then. -/
theorem step_falls (h : w.step m s = some r) (dead : r.2.isPanicked = true) :
    ∃ c, w.cycle? = some c ∧ r.1 = s := by
  obtain ⟨message, died⟩ : ∃ message, r.2.phase = .panicked message := by
    unfold isPanicked at dead
    split at dead
    · exact ⟨_, ‹_›⟩
    · cases dead
  have heard : w.hears? s = some .panicked := by
    obtain ⟨_, _, _, leg⟩ := step_leg h
    rw [died] at leg
    cases leg with
    | dies message heard => exact heard
    | begins a begins tries =>
      cases tries with
      | refused left why answer ends => cases ends
    | again c due phase tries =>
      cases tries with
      | refused left why answer ends => cases ends
    | ends c f result phase due answer back ends => cases ends
  obtain ⟨c, inside⟩ := (inside_of_panicked heard).1
  exact ⟨c, inside, step_of_panicked heard h⟩

end Worker

def phase? (p : Poller ω φ) : Option (Phase φ) := p.active?.map (·.phase)

/-- What should be told about the worker of a poller: a worker that is gone has been stopped. -/
def report (manned : Bool) (p : Poller ω φ) : Status :=
  p.phase?.elim (if manned then .stopped else .idle) Phase.report

namespace Transition

variable (t : Transition ω φ)

def mans : Bool :=
  match t.move with
  | .start _ => !t.before.poller.hasLiveWorker
  | _ => false

/-- The account in whose cycle a call takes the worker down. -/
def falls? : Option String :=
  match t.move with
  | .work =>
    if t.after.poller.active?.any (·.isPanicked) then
      (t.before.poller.active?.bind Worker.cycle?).map (·.account.id)
    else none
  | _ => none

end Transition

namespace History

def manned (h : History ω φ) : Bool := h.any (·.mans)

def sinceManned (h : History ω φ) : History ω φ := h.takeWhile fun t => !t.mans

def fallen? (h : History ω φ) : Option String := h.sinceManned.findSome? (·.falls?)

end History

theorem sinceManned_cons (t : Transition ω φ) (h : History ω φ) :
    History.sinceManned (t :: h) = if t.mans then [] else t :: h.sinceManned := by
  cases mans : t.mans <;> simp [History.sinceManned, mans]

theorem manned_cons (t : Transition ω φ) (h : History ω φ) :
    History.manned (t :: h) = (t.mans || h.manned) := List.any_cons

theorem fallen?_cons (t : Transition ω φ) (h : History ω φ) :
    History.fallen? (t :: h) = if t.mans then none else t.falls?.or h.fallen? := by
  rw [History.fallen?, sinceManned_cons]
  split
  · rfl
  · cases falls : t.falls? <;> simp [falls, History.fallen?]

namespace System

variable {m : Mailboxes ω φ} {s s' : System ω φ} {h : History ω φ}

/-- What is told about the worker: the account in whose cycle it was taken down, and the truth
otherwise. -/
structure Told (h : History ω φ) (s : System ω φ) : Prop where
  status : s.shared.status = h.fallen?.elim (s.poller.report h.manned) .processing
  dead : ∀ w, s.poller.active? = some w → w.isPanicked = h.fallen?.isSome
  manned : s.poller.active?.isSome = true → h.manned = true

theorem Told.frame {t : Transition ω φ} (told : Told h t.before) (unmanned : t.mans = false)
    (unharmed : t.falls? = none) (status : t.after.shared.status = t.before.shared.status)
    (phase : t.after.poller.phase? = t.before.poller.phase?) : Told (t :: h) t.after := by
  have fallen : History.fallen? (t :: h) = h.fallen? := by simp [fallen?_cons, unmanned, unharmed]
  have manned : History.manned (t :: h) = h.manned := by simp [manned_cons, unmanned]
  have alike (w : Worker φ) (here : t.after.poller.active? = some w) :
      ∃ v, t.before.poller.active? = some v ∧ v.phase = w.phase := by
    rw [phase?, here] at phase
    exact Option.map_eq_some_iff.1 phase.symm
  refine ⟨?_, fun w here => ?_, fun here => ?_⟩
  · rw [status, told.status, fallen, manned, report, report, phase]
  · obtain ⟨v, was, same⟩ := alike w here
    rw [fallen, ← told.dead v was, Worker.isPanicked, Worker.isPanicked, same]
  · obtain ⟨w, here⟩ := Option.isSome_iff_exists.1 here
    obtain ⟨v, was, -⟩ := alike w here
    rw [manned]
    exact told.manned (by rw [was]; rfl)

theorem Told.manning {t : Transition ω φ} (mans : t.mans = true)
    (status : t.after.shared.status = .idle) (phase : t.after.poller.phase? = some .fresh) :
    Told (t :: h) t.after := by
  have fallen : History.fallen? (t :: h) = none := by simp [fallen?_cons, mans]
  refine ⟨?_, fun w here => ?_, fun _ => by simp [manned_cons, mans]⟩
  · rw [status, fallen, Option.elim_none, report, phase]
    rfl
  · rw [phase?, here] at phase
    have fresh : w.phase = .fresh := Option.some.inj phase
    simp [fallen, Worker.isPanicked, fresh]

theorem selection_told {p : Poller ω φ} {result : Bool × Poller ω φ}
    (selection : Selection p result) :
    result.2.shared.status = p.shared.status ∧ result.2.phase? = p.phase? := by
  cases selection with
  | exhausted log past => exact ⟨rfl, rfl⟩
  | deferred log chosen absent => exact ⟨rfl, rfl⟩
  | signalled log chosen w here => exact ⟨rfl, by simp [phase?, active?, here]⟩

theorem Told.starting {auto : Bool} {p : Poller ω φ} (told : Told h s)
    (starting : Starting s.poller auto p) : Told (⟨.start auto, s, ⟨p, none⟩⟩ :: h) ⟨p, none⟩ := by
  cases starting with
  | running log live => exact told.frame (by simp [Transition.mans, live]) rfl rfl rfl
  | resumed log dead pending selected =>
    exact .manning (by simp [Transition.mans, dead]) rfl rfl
  | waiting log dead nothing => exact .manning (by simp [Transition.mans, dead]) rfl rfl
  | selecting dead =>
    obtain ⟨log, selection⟩ := auto_selection s.poller
    obtain ⟨status, phase⟩ := selection_told selection
    exact .manning (by simp [Transition.mans, dead]) status phase

theorem Told.stopEnds {serial deadline : Nat} (sound : s.Sound) (told : Told h s)
    (waits : s.stopping = some (serial, deadline)) :
    Told (⟨.stopEnds, s, ⟨s.poller.release serial, none⟩⟩ :: h)
      ⟨s.poller.release serial, none⟩ := by
  obtain ⟨absent, w, there, same, -⟩ := sound.stopping serial deadline waits
  have active : s.poller.active? = some w := by simp [active?, absent, there]
  have gone : (s.poller.release serial).active? = none := by
    obtain ⟨status, log, released⟩ := release_eq s.poller serial
    simp [released, active?, absent, there, same]
  have manned := told.manned (by rw [active]; rfl)
  have status := told.status
  have dead := told.dead w active
  have before : s.poller.report h.manned = w.phase.report := by simp [report, phase?, active]
  have after : (s.poller.release serial).report h.manned = .stopped := by
    simp [report, phase?, gone, manned]
  refine ⟨?_, fun v here => ?_, fun here => ?_⟩
  · have kept :
        History.fallen? (⟨.stopEnds, s, ⟨s.poller.release serial, none⟩⟩ :: h) = h.fallen? :=
      by simp [fallen?_cons, Transition.mans, Transition.falls?]
    have still : History.manned (⟨.stopEnds, s, ⟨s.poller.release serial, none⟩⟩ :: h) = h.manned :=
      by simp [manned_cons, Transition.mans]
    rw [kept, still, after]
    rw [before] at status
    cases phase : w.phase with
    | exited =>
      have none : h.fallen? = none := by simpa [Worker.isPanicked, phase] using dead
      rw [none, phase] at status
      rw [none]
      simpa [release, there, same, phase, note, modify, Shared.note, Phase.report] using status
    | panicked message =>
      obtain ⟨id, fallen⟩ :=
        Option.isSome_iff_exists.1 (by simpa [Worker.isPanicked, phase] using dead)
      rw [fallen] at status
      rw [fallen]
      simpa [release, there, same, phase, note, modify, Shared.note] using status
    | _ =>
      have none : h.fallen? = none := by simpa [Worker.isPanicked, phase] using dead
      rw [none]
      simp [release, there, same, phase, note, modify, Shared.note]
  · cases gone.symm.trans here
  · rw [gone] at here
    cases here

theorem Told.work {p : Poller ω φ} (sound : s.Sound) (told : Told h s)
    (goes : s.poller.stepWorker m = some p) :
    Told (⟨.work, s, { s with poller := p }⟩ :: h) { s with poller := p } := by
  obtain ⟨w, r, made, put, turned⟩ := sound.turned goes
  obtain ⟨active, after, shared⟩ := turned.worked.active
  have manned : History.manned (⟨.work, s, { s with poller := p }⟩ :: h) = h.manned := by
    simp [manned_cons, Transition.mans]
  have place : p.phase? = some r.2.phase := by simp [phase?, after]
  -- A worker that goes on is not one that was taken down.
  have alive : h.fallen? = none := by
    have dead := told.dead w active
    cases phase : w.phase with
    | panicked message =>
      have step := turned.step
      simp [Worker.step, phase] at step
    | _ => simpa [Worker.isPanicked, phase] using dead
  have before : s.shared.status = w.phase.report := by
    rw [told.status, alive, Option.elim_none, report, phase?, active]
    rfl
  have falls : Transition.falls? ⟨.work, s, { s with poller := p }⟩ =
      if r.2.isPanicked then w.cycle?.map (·.account.id) else none := by
    simp only [Transition.falls?, after, active, Option.bind_some, Option.any_some]
  refine ⟨?_, fun v here => ?_, fun _ => ?_⟩
  · rw [fallen?_cons, falls, alive, manned, System.shared, shared]
    cases dead : r.2.isPanicked with
    | true =>
      obtain ⟨c, inside, kept⟩ := Worker.step_falls turned.step dead
      rw [kept, before, inside, Worker.report_of_cycle? inside]
      rfl
    | false =>
      rw [Worker.step_reports before turned.step dead]
      simp [Transition.mans, report, place]
  · obtain rfl := Option.some.inj (after.symm.trans here)
    rw [fallen?_cons, falls, alive]
    cases dead : r.2.isPanicked with
    | true =>
      obtain ⟨c, inside, -⟩ := Worker.step_falls turned.step dead
      simp [Transition.mans, inside]
    | false => simp [Transition.mans]
  · rw [manned]
    exact told.manned (by rw [active]; rfl)

theorem Told.step {move : Move} (sound : s.Sound) (told : Told h s) (step : Step m s move s') :
    Told (⟨move, s, s'⟩ :: h) s' := by
  cases step with
  | start auto free =>
    rw [update_of_free free]
    exact told.starting (start_starting s.poller auto)
  | next free =>
    obtain ⟨status, phase⟩ := selection_told sound.selection
    exact told.frame rfl rfl status phase
  | reset free =>
    refine told.frame rfl rfl rfl ?_
    cases here : s.poller.worker <;>
      simp [update, reset, note, modify, phase?, active?, here]
  | stop free found =>
    rw [stop_eq found]
    exact told.frame rfl rfl rfl (by simp [phase?, active?, found])
  | stopEnds waits ended => exact told.stopEnds sound waits
  | work goes => exact told.work sound goes
  | _ => exact told.frame rfl rfl rfl rfl

theorem Run.told {roster : Roster} {defaults : Polling} {world : ω} {clock : Calendar.Instant}
    (run : Run m (.new roster defaults world clock) h s) : Told h s := by
  induction run with
  | nil => exact ⟨rfl, fun _ here => (nomatch here), fun here => (nomatch here)⟩
  | cons past step ih => exact ih.step (past.sound (sound_new roster defaults world clock)) step

/-- Once a stop that has found a worker has come back, there is none until the next start. -/
theorem Run.gone {roster : Roster} {defaults : Polling} {world : ω} {clock : Calendar.Instant}
    (run : Run m (.new roster defaults world clock) h s)
    (back : ∃ t ∈ h.sinceManned, t.move = .stopEnds) : s.Unmanned ∧ h.manned = true := by
  induction run with
  | nil => simp [History.sinceManned] at back
  | @cons h s move s' past step ih =>
    have sound := past.sound (sound_new roster defaults world clock)
    rw [sinceManned_cons] at back
    cases mans : Transition.mans ⟨move, s, s'⟩ with
    | true => simp [mans] at back
    | false =>
      simp only [mans, Bool.false_eq_true, if_false, List.mem_cons, exists_eq_or_imp] at back
      obtain rfl | old := back
      · refine ⟨step.unmanned sound rfl, ?_⟩
        cases step with
        | stopEnds waits ended =>
          obtain ⟨absent, w, there, -⟩ := sound.stopping _ _ waits
          rw [manned_cons, past.told.manned (by simp [active?, absent, there]), Bool.or_true]
      · obtain ⟨unmanned, manned⟩ := ih old
        refine ⟨(unmanned.step sound step ?_).2, ?_⟩
        · rintro auto rfl
          simp [Transition.mans, hasLiveWorker, unmanned.absent] at mans
        · rw [manned_cons, manned, Bool.or_true]

end System

/-- Between two operations it is told that an account is being processed exactly if a live worker is
in a cycle of it, or a call has taken the latest worker down in such a cycle. After a stop that has
found a worker, and until the next start, it is told that the worker has stopped, unless it was taken
down. -/
theorem status_truthful_unless_fallen {m : Mailboxes ω φ} {roster : Roster} {defaults : Polling}
    {world : ω} {clock : Calendar.Instant} {h : History ω φ} {s : System ω φ}
    (run : System.Run m (System.new roster defaults world clock) h s) (free : s.stopping = none) :
    (∀ id, s.shared.status = .processing id ↔
      (∃ w c, s.poller.worker = some w ∧ w.finished = false ∧ w.cycle? = some c ∧
        c.account.id = id) ∨ h.fallen? = some id) ∧
    ((∃ t ∈ h.sinceManned, t.move = .stopEnds) →
      (s.shared.status = .stopped ↔ h.fallen? = none)) := by
  have told := run.told
  have sound := run.sound (System.sound_new roster defaults world clock)
  have status := told.status
  have active : s.poller.active? = s.poller.worker := by simp [active?, sound.free free]
  constructor
  · intro id
    cases fallen : h.fallen? with
    | some id' =>
      rw [fallen] at status
      rw [status, Option.elim_some, Status.processing.injEq, Option.some.injEq]
      refine ⟨.inr, fun inside => inside.resolve_left ?_⟩
      -- The worker that was taken down is not in a cycle.
      rintro ⟨w, c, here, -, within, -⟩
      have dead := told.dead w (active.trans here)
      rw [fallen, Worker.isPanicked] at dead
      cases phase : w.phase <;> simp_all [Worker.cycle?]
    | none =>
      rw [fallen, Option.elim_none, report, phase?, active] at status
      rw [status]
      cases here : s.poller.worker with
      | none => cases h.manned <;> simp
      | some w =>
        rw [Option.map_some, Option.elim_some, Worker.report_eq_processing]
        constructor
        · rintro ⟨c, inside, same⟩
          exact .inl ⟨w, c, rfl, Worker.finished_of_cycle? inside, inside, same⟩
        · rintro (⟨v, c, there, -, inside, same⟩ | none)
          · obtain rfl := Option.some.inj there
            exact ⟨c, inside, same⟩
          · cases none
  · intro back
    obtain ⟨unmanned, manned⟩ := run.gone back
    rw [report, phase?, active, unmanned.absent, manned] at status
    rw [status]
    cases h.fallen? <;> simp

theorem System.fragile_stops : ∃ (h : History Script.Scripts Script.Step)
    (s : System Script.Scripts Script.Step), System.Run Script.mailboxes .fragile h s ∧
      s.stopping = none ∧ s.poller.worker = none ∧ h.fallen? = some "home" ∧
      ∃ t ∈ h.sinceManned, t.move = .stopEnds := by
  have run : System.Run Script.mailboxes .fragile [] .fragile := .nil
  have run := run.cons (.start true rfl)
  have run := run.cons (.work rfl) |>.cons (.work rfl) |>.cons (.work rfl)
  have run := run.cons (.stop rfl rfl) |>.cons (.stopEnds rfl (.inl (by decide +kernel)))
  exact ⟨_, _, run, rfl, rfl, rfl, _, .head _, rfl⟩

theorem status_truthful_unless_fallen_fragile :
    ∃ (h : History Script.Scripts Script.Step) (s : System Script.Scripts Script.Step),
      System.Run Script.mailboxes .fragile h s ∧ s.stopping = none ∧ s.poller.worker = none ∧
        s.shared.status = .processing "home" ∧ s.shared.status ≠ .stopped := by
  obtain ⟨h, s, run, free, absent, fallen, back⟩ := System.fragile_stops
  obtain ⟨processing, stopped⟩ := status_truthful_unless_fallen run free
  refine ⟨h, s, run, free, absent, (processing "home").2 (.inr fallen), fun told => ?_⟩
  cases fallen.symm.trans ((stopped back).1 told)

/-- Without that exception what is told can be wrong, about a cycle and after a stop. -/
theorem status_not_always_truthful :
    ¬∀ (h : History Script.Scripts Script.Step) (s : System Script.Scripts Script.Step),
      System.Run Script.mailboxes .fragile h s → s.stopping = none →
        (∀ id, s.shared.status = .processing id → ∃ w c, s.poller.worker = some w ∧
          w.finished = false ∧ w.cycle? = some c ∧ c.account.id = id) ∧
        ((∃ t ∈ h.sinceManned, t.move = .stopEnds) → s.shared.status = .stopped) := by
  intro always
  obtain ⟨h, s, run, free, -, fallen, back⟩ := System.fragile_stops
  have status := run.told.status
  rw [fallen, (always h s run free).2 back] at status
  cases status

end MailRound.Poller
