import MailRound.Proofs.Crowd.Crew

namespace MailRound.Poller

variable {ω φ : Type} {m : Mailboxes ω φ}

namespace Worker

/-- There is something to do: a signal waits, or an account is being polled. -/
def Busy (w : Worker φ) : Prop := w.signal = true ∨ w.cycle?.isSome = true

theorem finished_of_cycle? {w : Worker φ} {c : Cycle} (inside : w.cycle? = some c) :
    w.finished = false := by
  unfold cycle? at inside
  unfold finished
  split <;> simp_all

def isPanicked (w : Worker φ) : Bool :=
  match w.phase with
  | .panicked _ => true
  | _ => false

theorem Goes.tends {s : Shared ω} {w : Worker φ} {c : Cycle} {r : Step ω φ}
    (goes : Goes s w c r) (running : w.stop = false) :
    r.2.finished = false ∧ (r.1.processing = true → r.2.Busy) := by
  cases goes with
  | rests self flag =>
    refine ⟨by rw [self]; rfl, fun up => ?_⟩
    rw [self]
    cases signal : w.signal with
    | true => exact .inl rfl
    | false => simp [flag, signal, running] at up
  | goesOn phase c' self inside account generation flag =>
    exact ⟨finished_of_cycle? inside, fun _ => .inr (by rw [inside]; rfl)⟩

theorem Turn.tends {s : Shared ω} {w : Worker φ} {made : List Call} {put : List Message}
    {r : Step ω φ} (turn : Turn s w made put r) (running : w.stop = false)
    (accepting : w.closed = false) (calm : ∀ message, r.2.phase ≠ .panicked message) :
    r.2.finished = false ∧
      (r.1.processing = true → r.2.Busy ∨ s.processing = true ∧ (w.Busy → r.2.Busy)) := by
  have going {w : Worker φ} {c : Cycle} (goes : Goes s w c r) (running : w.stop = false) :
      r.2.finished = false ∧
        (r.1.processing = true → r.2.Busy ∨ s.processing = true ∧ (w.Busy → r.2.Busy)) :=
    (goes.tends running).imp_right fun busy up => .inl (busy up)
  cases turn with
  | wakes fresh self flag quiet empty =>
    refine ⟨by rw [self]; rfl, fun up => .inr ⟨flag.symm.trans up, fun busy => ?_⟩⟩
    rw [self]
    exact busy.imp_right fun inside => by simp [cycle?, fresh] at inside
  | exits idle why self flag quiet empty => simp [running, accepting] at why
  | skips idle go signal unselected self flag quiet empty =>
    exact ⟨by rw [self]; rfl, fun up => by rw [flag] at up; cases up⟩
  | begins account selected goes calls empty =>
    obtain ⟨alive, busy⟩ := goes.tends running
    exact ⟨alive, fun up => .inl (busy up)⟩
  | lands c batch fetched goes taken => exact going goes running
  | goesOn c inside other goes calls unmarked empty => exact going goes running
  | dies c inside other message self flag quiet empty =>
    exact absurd (by rw [self]) (calm message)

theorem Turn.flag_of_stop {s : Shared ω} {w : Worker φ} {made : List Call} {put : List Message}
    {r : Step ω φ} (turn : Turn s w made put r) (told : w.stop = true) :
    r.1.processing = s.processing := by
  have going {c : Cycle} (goes : Goes s w c r) : r.1.processing = s.processing := by
    cases goes with
    | rests self flag => simpa [told] using flag
    | goesOn phase c' self inside account generation flag => exact flag
  cases turn with
  | wakes fresh self flag quiet empty => exact flag
  | exits idle why self flag quiet empty => exact flag
  | skips idle go signal unselected self flag quiet empty => simp [told] at go
  | begins account selected goes calls empty =>
    have running := (begins?_eq_some.1 selected).2.1
    simp [told] at running
  | lands c batch fetched goes taken => exact going goes
  | goesOn c inside other goes calls unmarked empty => exact going goes
  | dies c inside other message self flag quiet empty => exact flag

end Worker

namespace Crowd

/-- Somebody looks after the flag. -/
def Attended (s : Crowd ω φ) : Prop := ∃ w, s.poller.worker = some w ∧ w.Busy

theorem not_attended {s : Crowd ω φ} (absent : s.poller.worker.isSome = false) : ¬s.Attended := by
  rintro ⟨w, here, -⟩
  simp [here] at absent

/-- A call to a mailbox has taken a worker down. -/
def Entry.Panics (t : Entry ω φ) : Prop := ∃ w ∈ t.after.poller.present, w.isPanicked = true

instance (t : Entry ω φ) : Decidable t.Panics :=
  inferInstanceAs (Decidable (∃ w ∈ t.after.poller.present, w.isPanicked = true))

/-- A selection raises the flag for a worker that is not installed any more. -/
def Entry.Misses (t : Entry ω φ) : Prop :=
  ∃ serial, t.act = .select (some serial) ∧ t.before.poller.signalTarget ≠ some serial ∧
    t.after.shared.processing = true

/-- The entries since the flag was last down. -/
def Journal.sinceDown (j : Journal ω φ) : Journal ω φ := j.takeWhile (·.after.shared.processing)

/-- What keeps the flag up: a worker, a stop that is about to take it down, or a selection that
came too late. -/
inductive Upheld (j : Journal ω φ) (s : Crowd ω φ) : Prop
  | attended (busy : s.Attended)
  | stopping (serial : Nat) (due : .retire serial ∈ s.underway)
  | missed (t : Entry ω φ) (since : t ∈ j.sinceDown) (misses : t.Misses)

structure Tended (j : Journal ω φ) (s : Crowd ω φ) : Prop where
  installed : ∀ w, s.poller.worker = some w →
    w.stop = false ∧ w.closed = false ∧ w.finished = false
  leaving : ∀ w ∈ s.poller.leaving, w.stop = true
  flag : s.shared.processing = true → Upheld j s

section Tended

variable {j : Journal ω φ} {t : Entry ω φ}

theorem Upheld.stays (h : Upheld j t.before) (up : t.after.shared.processing = true)
    (busy : t.before.Attended → t.after.Attended)
    (due : ∀ serial, .retire serial ∈ t.before.underway → .retire serial ∈ t.after.underway) :
    Upheld (t :: j) t.after := by
  cases h with
  | attended old => exact .attended (busy old)
  | stopping serial old => exact .stopping serial (due serial old)
  | missed t' since misses =>
    have more : Journal.sinceDown (t :: j) = t :: j.sinceDown := by simp [Journal.sinceDown, up]
    exact .missed t' (more ▸ List.mem_cons_of_mem _ since) misses

theorem Tended.frame (h : Tended j t.before)
    (worker : t.after.poller.worker = t.before.poller.worker)
    (leaving : t.after.poller.leaving ⊆ t.before.poller.leaving)
    (flag : t.after.shared.processing = true → t.before.shared.processing = true)
    (due : ∀ serial, .retire serial ∈ t.before.underway → .retire serial ∈ t.after.underway) :
    Tended (t :: j) t.after := by
  refine ⟨fun w here => h.installed w (worker ▸ here), fun w there => h.leaving w (leaving there),
    fun up => (h.flag (flag up)).stays up ?_ due⟩
  rintro ⟨w, here, busy⟩
  exact ⟨w, worker.trans here, busy⟩

variable {s : Crowd ω φ}

theorem Tended.choice (h : Tended j s) {seen : Option Nat} {before after : List Section}
    (here : s.underway = before ++ .select seen :: after) {p : Poller ω φ}
    (choice : Choice s.poller seen p) :
    Tended (⟨.select seen, s, ⟨p, before ++ after⟩⟩ :: j) ⟨p, before ++ after⟩ := by
  have due (serial : Nat) (old : .retire serial ∈ s.underway) :
      .retire serial ∈ before ++ after := by
    rw [here] at old
    simpa using old
  cases choice with
  | exhausted log past =>
    exact h.frame rfl (List.Subset.refl _) (fun up => nomatch up) due
  | deferred log unseen => exact h.frame rfl (List.Subset.refl _) id due
  | signalled log w installed same =>
    refine ⟨fun v found => ?_, h.leaving, fun _ => .attended ⟨_, rfl, .inl rfl⟩⟩
    obtain rfl := Option.some.inj found
    exact h.installed w installed
  -- The flag goes up and the signal is lost. That is the entry to blame, as long as the flag is up.
  | missed log serial saw gone =>
    subst saw
    have absent : s.poller.signalTarget ≠ some serial := by
      intro seen
      obtain ⟨w, found, number⟩ := Option.map_eq_some_iff.1 seen
      exact gone w found (h.installed w found).2.1 number
    exact ⟨h.installed, h.leaving, fun up =>
      .missed ⟨.select (some serial), s, _⟩ List.mem_cons_self ⟨serial, rfl, absent, up⟩⟩

/-- A new worker is installed only where there is none, since none has ended by itself. -/
theorem Tended.manning (h : Tended j s) (dead : s.poller.hasLiveWorker = false) {auto : Bool}
    {p : Poller ω φ} (manning : Manning s.poller auto p) {underway : List Section}
    (due : ∀ serial, .retire serial ∈ s.underway → .retire serial ∈ underway) :
    Tended (⟨.start auto, s, ⟨p, underway⟩⟩ :: j) ⟨p, underway⟩ := by
  have absent : s.poller.worker = none := by
    cases here : s.poller.worker with
    | none => rfl
    | some w => simp [hasLiveWorker, here, (h.installed w here).2.2] at dead
  have unattended (busy : s.Attended) : Attended ⟨p, underway⟩ := by
    obtain ⟨w, here, -⟩ := busy
    cases here.symm.trans absent
  have ready {signal : Bool} (w : Worker φ)
      (found : some { Worker.spawn s.poller.spawned with signal := signal } = some w) :
      w.stop = false ∧ w.closed = false ∧ w.finished = false := by
    rw [← Option.some.inj found]
    exact ⟨rfl, rfl, rfl⟩
  cases manning with
  | selects log => exact ⟨ready, h.leaving, fun up => (h.flag up).stays up unattended due⟩
  | waits log => exact ⟨ready, h.leaving, fun up => (h.flag up).stays up unattended due⟩
  | resumes log => exact ⟨ready, h.leaving, fun _ => .attended ⟨_, rfl, .inl rfl⟩⟩

theorem Tended.stepped (h : Tended j s) {w : Worker φ} {r : Worker.Step ω φ} {p : Poller ω φ}
    (goes : w.step m s.shared = some r) (place : Stepped s.poller w r p)
    (calm : ¬Entry.Panics ⟨.work w.serial, s, ⟨p, s.underway⟩⟩) :
    Tended (⟨.work w.serial, s, ⟨p, s.underway⟩⟩ :: j) ⟨p, s.underway⟩ := by
  obtain ⟨made, put, effect, turn⟩ := Worker.step_turn goes
  obtain ⟨-, stop, closed⟩ := turn.orders
  cases place with
  | installed here =>
    obtain ⟨running, accepting, -⟩ := h.installed w here
    have alive (message : String) : r.2.phase ≠ .panicked message := fun died =>
      calm ⟨r.2, by simp [present], by simp [Worker.isPanicked, died]⟩
    obtain ⟨unfinished, busy⟩ := turn.tends running accepting alive
    refine ⟨fun v found => ?_, h.leaving, fun up => ?_⟩
    · obtain rfl := Option.some.inj found
      exact ⟨stop.trans running, closed.trans accepting, unfinished⟩
    · obtain now | ⟨before, still⟩ := busy up
      · exact .attended ⟨_, rfl, now⟩
      · refine (h.flag before).stays up ?_ fun _ => id
        rintro ⟨v, found, old⟩
        obtain rfl := Option.some.inj (here.symm.trans found)
        exact ⟨_, rfl, still old⟩
  -- A worker that leaves was told to stop, so what it does is nothing to the flag.
  | leaving before after there =>
    have told : w.stop = true := h.leaving w (by simp [there])
    refine ⟨h.installed, fun v found => ?_, fun up => ?_⟩
    · obtain rfl | old := List.mem_cons.1 (List.perm_middle.mem_iff.1 found)
      · exact stop.trans told
      · refine h.leaving v ?_
        rw [there]
        exact List.perm_middle.mem_iff.2 (List.mem_cons_of_mem _ old)
    · have flag := turn.flag_of_stop told
      exact (h.flag (flag ▸ up)).stays up id fun _ => id

theorem Tended.step {act : Act} {s' : Crowd ω φ} (h : Tended j s) (step : Step m s act s')
    (calm : ¬Entry.Panics ⟨act, s, s'⟩) : Tended (⟨act, s, s'⟩ :: j) s' := by
  have same : s.poller.leaving ⊆ s.poller.leaving := List.Subset.refl _
  cases step with
  | next => exact h.frame rfl same id fun _ => List.mem_cons_of_mem _
  | look before after here =>
    refine h.frame rfl same id fun serial old => ?_
    rw [here] at old
    simpa using old
  | select seen before after here => exact h.choice here (selectNext_choice s.poller seen)
  | startRunning auto live =>
    have told : s.update (·.start auto) =
        s.update (·.note .debug "Email poller worker already running") := by
      rw [update, update, start_of_live live]
    rw [told]
    exact h.frame rfl same id fun _ => id
  | start auto dead =>
    refine h.manning dead (installWorker_manning s.poller auto) fun serial old => ?_
    split
    · exact List.mem_cons_of_mem _ old
    · exact old
  | reset => exact h.frame rfl same id fun _ => List.mem_cons_of_mem _
  | forget seen before after here =>
    refine ⟨fun w found => ?_, h.leaving, fun up => nomatch up⟩
    obtain ⟨v, here', rfl⟩ := Option.map_eq_some_iff.1 found
    obtain ⟨running, accepting, alive⟩ := h.installed v here'
    split
    · exact ⟨running, accepting, alive⟩
    · exact ⟨running, accepting, alive⟩
  | stopIdle absent => exact h.frame rfl same id fun _ => id
  | stop w found =>
    rw [takeWorker_eq found]
    refine ⟨fun v absent => (nomatch absent), fun v there => ?_, fun _ =>
      .stopping w.serial List.mem_cons_self⟩
    obtain rfl | old := List.mem_cons.1 there
    · rfl
    · exact h.leaving v old
  | retire serial before after here => exact ⟨h.installed, h.leaving, fun up => nomatch up⟩
  | release serial deadline before after here ended =>
    obtain ⟨status, log, released⟩ := release_eq s.poller serial
    rw [released]
    refine h.frame rfl (List.filter_subset_self _) id fun number old => ?_
    rw [here] at old
    simpa using old
  | getMessage => exact h.frame rfl same id fun _ => id
  | getLastMessage => exact h.frame rfl same id fun _ => id
  | waitEnds done => exact h.frame rfl same id fun _ => id
  | waitTimesOut limit busy => exact h.frame rfl same id fun _ => id
  | work w r goes place => exact h.stepped goes place calm
  | pass ms => exact h.frame rfl same id fun _ => id
  | setClock t => exact h.frame rfl same id fun _ => id
  | tell event => exact h.frame rfl same id fun _ => id

end Tended

theorem Run.tended {roster : Roster} {defaults : Polling} {world : ω} {clock : Calendar.Instant}
    {j : Journal ω φ} {s : Crowd ω φ} (run : Run m (.new roster defaults world clock) j s)
    (calm : ∀ t ∈ j, ¬t.Panics) : Tended j s := by
  induction run with
  | nil =>
    exact ⟨fun _ absent => (nomatch absent), fun _ there => (nomatch there),
      fun up => nomatch up⟩
  | cons past step ih =>
    exact (ih fun t old => calm t (List.mem_cons_of_mem _ old)).step step
      (calm _ List.mem_cons_self)

theorem Step.parted {s : Crowd ω φ} {serial : Nat} {found : Shared ω × List (Worker φ)}
    (here : s.poller.leaving.map (·.serial) = [serial])
    (goes : stepFirst m s.shared s.poller.leaving = some found) :
    Step m s (.work serial)
      { s with poller := { s.poller with shared := found.1, leaving := found.2 } } := by
  obtain ⟨before, w, after, r, there, steps, rfl⟩ := stepFirst_splits goes
  obtain ⟨rfl, rfl, rfl⟩ : before = [] ∧ after = [] ∧ w.serial = serial := by
    rw [there] at here
    cases before with
    | nil => simpa [and_comm] using here
    | cons v vs => simp at here
  exact .work w r steps (.leaving [] [] there)

end Crowd

/-- One caller has seen the worker and is about to select when another one stops it. The worker
ends, the stop comes back, and only then the selection takes effect. -/
theorem Crowd.strands : ∃ (j : Crowd.Journal Script.Scripts Script.Step)
    (s : Crowd Script.Scripts Script.Step), Crowd.Run Script.mailboxes System.single.crowd j s ∧
      (∀ t ∈ j, ¬t.Panics) ∧ s.underway = [] ∧ s.shared.processing = true ∧
      s.poller.worker.isSome = false ∧ (s.poller.waitForever Script.mailboxes).1 = false := by
  have run : Crowd.Run Script.mailboxes System.single.crowd [] System.single.crowd := .nil
  have run := run.cons (.start false rfl) |>.cons .next |>.cons (.stop _ rfl)
  have run := run.cons (.retire _ [] _ rfl) |>.cons (.parted rfl rfl) |>.cons (.parted rfl rfl)
  have run := run.cons (.release _ _ [] _ rfl (.inl (by decide +kernel)))
  have run := run.cons (.select _ [] [] rfl)
  exact ⟨_, _, run, by decide +kernel, rfl, by decide +kernel, by decide +kernel,
    by decide +kernel⟩

/-- When no call is underway and the flag is up, the worker that is installed has something to do,
or a selection has come too late since the flag was last down. -/
theorem flag_attended_unless_missed {roster : Roster} {defaults : Polling} {world : ω}
    {clock : Calendar.Instant} {j : Crowd.Journal ω φ} {s : Crowd ω φ}
    (run : Crowd.Run m (.new roster defaults world clock) j s) (calm : ∀ t ∈ j, ¬t.Panics)
    (still : s.underway = []) (up : s.shared.processing = true) :
    s.Attended ∨ ∃ t ∈ j.sinceDown, t.Misses := by
  cases (run.tended calm).flag up with
  | attended busy => exact .inl busy
  | stopping serial due => simp [still] at due
  | missed t since misses => exact .inr ⟨t, since, misses⟩

theorem flag_attended_unless_missed_single :
    ∃ (j : Crowd.Journal Script.Scripts Script.Step) (s : Crowd Script.Scripts Script.Step),
      Crowd.Run Script.mailboxes System.single.crowd j s ∧ (∀ t ∈ j, ¬t.Panics) ∧
        s.underway = [] ∧ s.shared.processing = true ∧ ∃ t ∈ j.sinceDown, t.Misses := by
  obtain ⟨j, s, run, calm, still, up, absent, -⟩ := Crowd.strands
  exact ⟨j, s, run, calm, still, up,
    (flag_attended_unless_missed run calm still up).resolve_left (Crowd.not_attended absent)⟩

/-- Without that exception the flag can be up with nobody to look after it. -/
theorem flag_not_always_attended :
    ¬∀ (j : Crowd.Journal Script.Scripts Script.Step) (s : Crowd Script.Scripts Script.Step),
      Crowd.Run Script.mailboxes System.single.crowd j s → (∀ t ∈ j, ¬t.Panics) →
        s.underway = [] → s.shared.processing = true → s.Attended := by
  intro always
  obtain ⟨j, s, run, calm, still, up, absent, -⟩ := Crowd.strands
  exact Crowd.not_attended absent (always j s run calm still up)

end MailRound.Poller
