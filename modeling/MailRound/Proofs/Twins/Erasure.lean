import MailRound.Proofs.Lifecycle.Status
import MailRound.Proofs.Poller.Attempts
import MailRound.Proofs.Twins.Schedule
import MailRound.Proofs.Twins.Session

namespace MailRound.Poller

variable {ω φ : Type}

namespace System

variable {m : Mailboxes ω φ} {s s' : System ω φ} {h : History ω φ} {w : Worker φ}

/-- The worker that is installed was spawned last. -/
theorem Step.newest {move : Move} (sound : s.Sound) (step : Step m s move s')
    (newest : ∀ w, s.poller.worker = some w → w.serial + 1 = s.poller.spawned) :
    ∀ w, s'.poller.worker = some w → w.serial + 1 = s'.poller.spawned := by
  have selection {p : Poller ω φ} {result : Bool × Poller ω φ} (h : Selection p result)
      (newest : ∀ w, p.worker = some w → w.serial + 1 = p.spawned) :
      ∀ w, result.2.worker = some w → w.serial + 1 = result.2.spawned := by
    cases h with
    | exhausted log past => exact newest
    | deferred log chosen absent => exact newest
    | signalled log chosen w here =>
      rintro v there
      obtain rfl := Option.some.inj there
      exact newest w here
  have spawned (signal : Bool) (w : Worker φ)
      (here : some { Worker.spawn s.poller.spawned with signal := signal } = some w) :
      w.serial + 1 = s.poller.spawned + 1 := by
    obtain rfl := Option.some.inj here
    rfl
  cases step with
  | start auto free =>
    have starting := start_starting s.poller auto
    simp only [update]
    generalize s.poller.start auto = p at starting
    cases starting with
    | running log live => exact newest
    | resumed log dead pending selected => exact spawned true
    | waiting log dead nothing => exact spawned false
    | selecting dead =>
      obtain ⟨log, chosen⟩ := auto_selection s.poller
      exact selection chosen (spawned false)
  | next free =>
    exact selection sound.selection newest
  | reset free =>
    intro v there
    obtain ⟨w, here, rfl⟩ := Option.map_eq_some_iff.1 there
    exact newest w here
  | stop free found =>
    rw [stop_eq found]
    intro w there
    cases there
  | @stopEnds serial deadline waits ended =>
    obtain ⟨status, log, released⟩ := release_eq s.poller serial
    rw [released]
    exact newest
  | work goes =>
    obtain ⟨w, r, made, put, turned⟩ := sound.turned goes
    have same := turned.turn.orders.1
    cases turned.worked with
    | installed free here =>
      intro v there
      obtain rfl := Option.some.inj there
      exact (congrArg (· + 1) same).trans (newest w here)
    | leaving absent there => exact newest
  | _ => exact newest

theorem Run.newest {roster : Roster} {defaults : Polling} {world : ω} {clock : Calendar.Instant}
    (run : Run m (.new roster defaults world clock) h s) :
    ∀ w, s.poller.worker = some w → w.serial + 1 = s.poller.spawned := by
  induction run with
  | nil =>
    intro w here
    cases here
  | cons past step ih => exact step.newest (past.sound (sound_new roster defaults world clock)) ih

theorem Sound.free_of_worker (sound : s.Sound) (here : s.poller.worker = some w) :
    s.stopping = none := by
  cases waits : s.stopping with
  | none => rfl
  | some stop =>
    obtain ⟨absent, -⟩ := sound.stopping stop.1 stop.2 waits
    cases absent.symm.trans here

/-- A live worker outside any cycle waits, and that is what is told. -/
theorem Run.waits {roster : Roster} {defaults : Polling} {world : ω} {clock : Calendar.Instant}
    (run : Run m (.new roster defaults world clock) h s) (here : s.poller.worker = some w)
    (alive : w.finished = false) (outside : w.cycle? = none) :
    w.phase.woken = .idle ∧ s.shared.status = .idle := by
  have told := run.told
  have active := active?_of_worker here
  have unharmed : h.fallen? = none := by
    rw [← Option.not_isSome_iff_eq_none, ← told.dead w active]
    cases phase : w.phase <;> simp_all [Worker.isPanicked, Worker.finished]
  have status := told.status
  rw [unharmed, Option.elim_none, report, phase?, active, Option.map_some, Option.elim_some] at status
  rw [status]
  unfold Worker.finished at alive
  unfold Worker.cycle? at outside
  cases phase : w.phase <;> simp_all [Phase.woken, Phase.report]

theorem Run.cons_reset {start : System ω φ} (run : Run m start h s) (free : s.stopping = none) :
    Run m start (⟨.reset, s, ⟨s.poller.reset, none⟩⟩ :: h) ⟨s.poller.reset, none⟩ := by
  have after := run.cons (.reset free)
  rwa [update_of_free free] at after

def traces (s : System ω φ) (w : Worker φ) : Offset :=
  ⟨s.shared.cycle + 1, w.serial, s.shared.now, s.shared.queue.stats.totalMessages,
    s.shared.queue.stats.lastMessageTime, s.shared.calls⟩

/-- A poller whose first worker has just been started. -/
def started (roster : Roster) (defaults : Polling) (world : ω) (clock : Calendar.Instant) :
    System ω φ :=
  ⟨(Poller.new roster defaults world clock).start false, none⟩

theorem started_run (m : Mailboxes ω φ) (roster : Roster) (defaults : Polling) (world : ω)
    (clock : Calendar.Instant) :
    ∃ h, Run m (.new roster defaults world clock) h (.started roster defaults world clock) :=
  ⟨_, .cons .nil (.start false rfl)⟩

theorem Run.reset_twins {roster : Roster} {defaults : Polling} {world : ω}
    {clock : Calendar.Instant} (run : Run m (.new roster defaults world clock) h s)
    (here : s.poller.worker = some w) (alive : w.finished = false) (outside : w.cycle? = none) :
    (started roster defaults s.shared.world s.shared.clock).Twins (s.traces w)
      ⟨s.poller.reset, none⟩ := by
  have sound := run.sound (sound_new roster defaults world clock)
  have fits := sound.installed w here
  have free := sound.free (sound.free_of_worker here)
  obtain ⟨accounts, settings, -⟩ := run.keeps (sound_new roster defaults world clock)
  obtain ⟨waits, status⟩ := run.waits here alive outside
  obtain ⟨told, cleared⟩ := reset_eq s.poller
  obtain ⟨log, fresh⟩ := installWorker_waits
    (p := Poller.new (φ := φ) roster defaults s.shared.world s.shared.clock) (.inl rfl)
  have first : (Poller.new (φ := φ) roster defaults s.shared.world s.shared.clock).start false =
      _ := fresh
  refine .of_free ?_
  rw [first, cleared]
  refine ⟨accounts, ⟨told, ?_⟩, ?_, ?_, ?_⟩
  · dsimp only [System.shared] at settings status ⊢
    simp [Shared.ahead, traces, manned, Poller.new, Shared.note, Queue.ahead, Queue.clear, Queue.new,
      QueueStats.empty, settings, status, accounts, System.new]
  · rw [here]
    refine .some ⟨w.phase, waits, ?_⟩
    simp [Worker.ahead, Worker.spawn, traces, Poller.new, fits.running, fits.accepting]
  · rw [free]
    exact .nil
  · exact (run.newest w here).symm

/-- A live worker is installed and outside any cycle. -/
def BetweenCycles (s : System ω φ) : Prop :=
  ∃ w, s.poller.worker = some w ∧ w.finished = false ∧ w.cycle? = none

end System

def total (p : Poller ω φ) : Nat := p.shared.queue.stats.totalMessages

theorem Twins.total {d : Offset} {p p' : Poller ω φ} (h : p.Twins d p') :
    p'.total = d.total + p.total := by
  rw [Poller.total, h.queue]
  rfl

/-- Two pollers of the same accounts and settings, with the same clock and mailboxes that behave the
same from now on, are reset while their workers are outside any cycle. Then they have the same
sessions on one thread, every run of one is matched by a run of the other that shows the same, and
their totals keep the distance they have. -/
theorem reset_erases_history {m : Mailboxes ω φ} {roster : Roster} {defaults : Polling}
    {world world' : ω} {clock clock' : Calendar.Instant} {h h' : History ω φ} {s s' : System ω φ}
    (run : System.Run m (System.new roster defaults world clock) h s)
    (run' : System.Run m (System.new roster defaults world' clock') h' s')
    (worlds : s'.shared.world = s.shared.world) (clocks : s'.shared.clock = s.shared.clock)
    (between : s.BetweenCycles)
    (between' : s'.BetweenCycles) :
    (∀ exchanges, (∃ q, Session m s.poller.reset exchanges q) ↔
      ∃ q', Session m s'.poller.reset exchanges q') ∧
    (∀ exchanges q q', Session m s.poller.reset exchanges q →
      Session m s'.poller.reset exchanges q' →
        q'.total + s.poller.total = q.total + s'.poller.total) ∧
    ∀ later r, System.Run m ⟨s.poller.reset, none⟩ later r →
      ∃ later' r', System.Run m ⟨s'.poller.reset, none⟩ later' r' ∧
        later'.sights = later.sights ∧
          r'.poller.total + s.poller.total = r.poller.total + s'.poller.total := by
  obtain ⟨w, here, alive, outside⟩ := between
  obtain ⟨w', here', alive', outside'⟩ := between'
  have near := run.reset_twins here alive outside
  have near' := run'.reset_twins here' alive' outside'
  rw [worlds, clocks] at near'
  -- Both are compared with the poller whose worker has just been started.
  obtain ⟨_, first⟩ := System.started_run m roster defaults s.shared.world s.shared.clock
  have sound₀ := first.sound (System.sound_new ..)
  have listed₀ := first.listed (System.sound_new ..) (System.listed_new ..)
  have free₀ : (System.started roster defaults s.shared.world s.shared.clock :
    System ω φ).stopping = none := rfl
  have back := run.cons_reset ((run.sound (System.sound_new ..)).free_of_worker here)
  have back' := run'.cons_reset ((run'.sound (System.sound_new ..)).free_of_worker here')
  have sound := back.sound (System.sound_new ..)
  have sound' := back'.sound (System.sound_new ..)
  have sessions := sound₀.session_twins (m := m) listed₀ sound
    (back.listed (System.sound_new ..) (System.listed_new ..)) free₀ rfl near.poller
  have sessions' := sound₀.session_twins (m := m) listed₀ sound'
    (back'.listed (System.sound_new ..) (System.listed_new ..)) free₀ rfl near'.poller
  have totals {q₀ q q' : Poller ω φ} (twins : q₀.Twins (s.traces w) q)
      (twins' : q₀.Twins (s'.traces w') q') :
      q'.total + s.poller.total = q.total + s'.poller.total := by
    have distance : (s.traces w).total = s.poller.total := rfl
    have distance' : (s'.traces w').total = s'.poller.total := rfl
    rw [twins.total, twins'.total, distance, distance']
    omega
  refine ⟨fun exchanges => ⟨fun ⟨q, session⟩ => ?_, fun ⟨q', session'⟩ => ?_⟩,
    fun exchanges q q' session session' => ?_, fun later r further => ?_⟩
  · obtain ⟨q₀, session₀, -⟩ := (sessions exchanges).2 q session
    obtain ⟨q', session', -⟩ := (sessions' exchanges).1 q₀ session₀
    exact ⟨q', session'⟩
  · obtain ⟨q₀, session₀, -⟩ := (sessions' exchanges).2 q' session'
    obtain ⟨q, session, -⟩ := (sessions exchanges).1 q₀ session₀
    exact ⟨q, session⟩
  · obtain ⟨q₀, session₀, twins⟩ := (sessions exchanges).2 q session
    obtain ⟨r', session'', twins'⟩ := (sessions' exchanges).1 q₀ session₀
    obtain rfl := session''.unique session'
    exact totals twins twins'
  · obtain ⟨later₀, r₀, further₀, same, twins⟩ :=
      System.Twins.follows_back.run sound sound₀ near further
    obtain ⟨later', r', further', same', twins'⟩ :=
      System.Twins.follows.run sound₀ sound' near' further₀
    exact ⟨later', r', further', same'.trans same, totals twins.poller twins'.poller⟩

def System.repeating : System Script.Scripts Script.Step :=
  .new ⟨[⟨"box", "imap", true, none, [], .default, none⟩]⟩ ⟨1, 0, 10⟩
    [("box", [{ Script.Step.empty with batch := [plainMessage "1"] },
      { Script.Step.empty with batch := [plainMessage "1"] }])] ⟨0, 0⟩

/-- Where one poller has never polled its account, the other has and has the message waiting. What
is left of the scripts is the same. -/
theorem reset_erases_history_polled :
    ∃ (h h' : History Script.Scripts Script.Step) (s s' : System Script.Scripts Script.Step)
      (exchanges : List Exchange) (q q' : Poller Script.Scripts Script.Step),
      System.Run Script.mailboxes .single h s ∧ System.Run Script.mailboxes .repeating h' s' ∧
        s'.shared.world = s.shared.world ∧ s.BetweenCycles ∧ s'.BetweenCycles ∧
        s.shared.queue.messages = [] ∧ s'.shared.queue.messages = [plainMessage "1"] ∧
        Session Script.mailboxes s.poller.reset exchanges q ∧
        Session Script.mailboxes s'.poller.reset exchanges q' ∧
        exchanges.map (·.answer) =
          [.message (some (plainMessage "1")), .flag true, .flag true] ∧
        q.total = 1 ∧ q'.total = 2 := by
  have run : System.Run Script.mailboxes .single [] .single := .nil
  have run := run.cons (.start false rfl) |>.cons (.work rfl)
  have run' : System.Run Script.mailboxes .repeating [] .repeating := .nil
  have run' := run'.cons (.start true rfl)
  have run' := run'.cons (.work rfl) |>.cons (.work rfl) |>.cons (.work rfl) |>.cons (.work rfl)
    |>.cons (.work rfl)
  -- One selection, a wait and a look into the queue.
  have polls {h : History Script.Scripts Script.Step} {s : System Script.Scripts Script.Step}
      (_ : System.Run Script.mailboxes .single h s) :
      let p := s.poller.reset
      let r := (p.next.2.wait Script.mailboxes 100).2
      p.next.1 = true → (p.next.2.wait Script.mailboxes 100).1 = true →
        r.getMessage.1 = some (plainMessage "1") →
          ∃ exchanges, Session Script.mailboxes p exchanges r.getMessage.2 ∧
            exchanges.map (·.answer) =
              [.message (some (plainMessage "1")), .flag true, .flag true] := by
    intro p r selects ends finds
    have first : Performs Script.mailboxes p .next (.flag true) p.next.2 :=
      .atOnce (congrArg (fun up => some (Answer.flag up, _)) selects)
    have second : Performs Script.mailboxes p.next.2 (.wait 100) (.flag true) r :=
      .atOnce (congrArg (fun up => some (Answer.flag up, _)) ends)
    have third : Performs Script.mailboxes r .getMessage (.message (some (plainMessage "1")))
        r.getMessage.2 := .atOnce (congrArg (fun m? => some (Answer.message m?, _)) finds)
    exact ⟨_, ((Session.nil.cons first).cons second).cons third, rfl⟩
  obtain ⟨same, totals, -⟩ := reset_erases_history run run' rfl rfl ⟨_, rfl, rfl, rfl⟩
    ⟨_, rfl, rfl, rfl⟩
  obtain ⟨exchanges, session, answers⟩ := polls run (by decide +kernel) (by decide +kernel)
    (by decide +kernel)
  obtain ⟨q', session'⟩ := (same exchanges).1 ⟨_, session⟩
  have twice := totals exchanges _ _ session session'
  refine ⟨_, _, _, _, exchanges, _, q', run, run', rfl, ⟨_, rfl, rfl, rfl⟩, ⟨_, rfl, rfl, rfl⟩,
    rfl, rfl, session, session', answers, by decide +kernel, ?_⟩
  exact twice

end MailRound.Poller
