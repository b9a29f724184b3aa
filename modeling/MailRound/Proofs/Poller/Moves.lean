import MailRound.Proofs.Poller.Agreement

namespace MailRound.Poller

variable {ω φ : Type}

theorem active?_of_worker {p : Poller ω φ} {w : Worker φ} (here : p.worker = some w) :
    p.active? = some w := by
  rw [active?, here]
  rfl

namespace System

variable {m : Mailboxes ω φ} {s s' : System ω φ} {p : Poller ω φ} {w : Worker φ}

/-- The active worker is installed and agrees with the shared state, or is being stopped. -/
theorem Sound.active (sound : s.Sound) (active : s.poller.active? = some w) :
    s.poller.worker = some w ∧ w.Fits s.shared ∨ s.poller.worker = none ∧ w.Leaves s.shared := by
  cases here : s.poller.worker with
  | some v =>
    obtain rfl : v = w := by simpa [active?, here] using active
    exact .inl ⟨rfl, sound.installed v here⟩
  | none =>
    cases waits : s.stopping with
    | none => simp [active?, here, sound.free waits] at active
    | some stop =>
      obtain ⟨-, v, there, -, leaves⟩ := sound.stopping stop.1 stop.2 waits
      obtain rfl : v = w := by simpa [active?, here, there] using active
      exact .inr ⟨rfl, leaves⟩

/-- A worker in a cycle of the present selection is installed, and the flag is up. -/
theorem Sound.current {c : Cycle} (sound : s.Sound) (active : s.poller.active? = some w)
    (inside : w.cycle? = some c) (newest : c.generation = s.shared.cycle) :
    s.poller.worker = some w ∧ s.shared.cursor.current? = some c.account ∧ w.signal = false ∧
      s.shared.processing = true := by
  obtain ⟨here, fits⟩ | ⟨-, leaves⟩ := sound.active active
  · exact ⟨here, fits.current c inside newest⟩
  · have := leaves.behind c inside
    omega

theorem Sound.begins {a : Account} (sound : s.Sound) (active : s.poller.active? = some w)
    (begins : w.begins? s.shared = some a) :
    s.poller.worker = some w ∧ s.shared.cursor.current? = some a ∧ s.shared.processing = true := by
  obtain ⟨-, go, signal, chosen⟩ := Worker.begins?_eq_some.1 begins
  obtain ⟨here, fits⟩ | ⟨-, leaves⟩ := sound.active active
  · exact ⟨here, chosen, fits.signalled signal (by rw [chosen]; rfl)⟩
  · rw [leaves.stopped] at go
    cases go

theorem Worked.installs {r : Worker.Step ω φ} (worked : Worked s w r p)
    (here : s.poller.worker = some w) : p.worker = some r.2 := by
  cases worked with
  | installed free _ => rfl
  | leaving absent there =>
    rw [here] at absent
    cases absent

/-- A step of the worker with the calls that it makes and the messages that it puts. -/
structure Turned (m : Mailboxes ω φ) (s : System ω φ) (w : Worker φ) (r : Worker.Step ω φ)
    (p : Poller ω φ) (made : List Call) (put : List Message) : Prop where
  step : w.step m s.shared = some r
  worked : Worked s w r p
  effect : s.shared.Effect made put p.shared
  turn : w.Turn s.shared made put r

theorem Sound.turned (sound : s.Sound) (goes : s.poller.stepWorker m = some p) :
    ∃ w r made put, Turned m s w r p made put := by
  obtain ⟨w, r, step, worked⟩ := sound.worked goes
  obtain ⟨made, put, effect, turn⟩ := Worker.step_turn step
  exact ⟨w, r, made, put, step, worked, worked.active.2.2 ▸ effect, turn⟩

namespace Turned

variable {r : Worker.Step ω φ} {made : List Call} {put : List Message}

theorem calls (h : Turned m s w r p made put) :
    Transition.calls ⟨.work, s, { s with poller := p }⟩ = made := by
  simp [Transition.calls, System.shared, h.effect.calls]

theorem puts (h : Turned m s w r p made put) :
    Transition.puts ⟨.work, s, { s with poller := p }⟩ = put := by
  simp [Transition.puts, System.shared, h.effect.queue, Queue.putAll_messages]

theorem begins? (h : Turned m s w r p made put) :
    Transition.begins? ⟨.work, s, { s with poller := p }⟩ = w.begins? s.shared := by
  simp [Transition.begins?, h.worked.active.1]

end Turned

/-- A move of the caller or of time. -/
structure Outside (t : Transition ω φ) : Prop where
  calls : t.after.shared.calls = t.before.shared.calls
  inside : ∀ w c, t.after.poller.active? = some w → w.cycle? = some c →
    ∃ v, t.before.poller.active? = some v ∧ v.phase = w.phase
  cycle : t.after.shared.cycle = t.before.shared.cycle + t.interrupts.toNat
  cleared : t.clears = true → t.after.shared.queue.messages = []
  kept : t.clears = false → t.after.shared.cursor = t.before.shared.cursor ∧
    t.after.shared.queue.messages <:+ t.before.shared.queue.messages

theorem Outside.plain {move : Move} (worker : p.worker = s.poller.worker)
    (leaving : p.leaving = s.poller.leaving) (calls : p.shared.calls = s.shared.calls)
    (cycle : p.shared.cycle = s.shared.cycle) (cursor : p.shared.cursor = s.shared.cursor)
    (queue : p.shared.queue.messages <:+ s.shared.queue.messages)
    (harmless : Transition.interrupts ⟨move, s, { s with poller := p }⟩ = false) :
    Outside ⟨move, s, { s with poller := p }⟩ := by
  have unclear : Transition.clears ⟨move, s, { s with poller := p }⟩ = false := by
    cases move <;> simp_all [Transition.interrupts, Transition.clears, Transition.selects]
  refine ⟨calls, ?_, ?_, ?_, fun _ => ⟨cursor, queue⟩⟩
  · intro w c active inside
    exact ⟨w, by rwa [active?, worker, leaving] at active, rfl⟩
  · rw [harmless]
    exact cycle
  · intro clears
    rw [unclear] at clears
    cases clears

theorem Outside.selection {move : Move} {q : Poller ω φ} {result : Bool × Poller ω φ}
    (selection : Selection q result) (calls : q.shared.calls = s.shared.calls)
    (cycle : q.shared.cycle = s.shared.cycle)
    (inside : ∀ w c, q.active? = some w → w.cycle? = some c →
      ∃ v, s.poller.active? = some v ∧ v.phase = w.phase)
    (clears : Transition.clears ⟨move, s, ⟨result.2, none⟩⟩ = true)
    (interrupts : Transition.interrupts ⟨move, s, ⟨result.2, none⟩⟩ = true) :
    Outside ⟨move, s, ⟨result.2, none⟩⟩ := by
  refine ⟨?_, ?_, ?_, ?_, ?_⟩
  · cases selection <;> exact calls
  · intro w c active within
    cases selection with
    | exhausted log past => exact inside w c active within
    | deferred log chosen absent => exact inside w c active within
    | signalled log chosen v here =>
      obtain rfl : { v with signal := true } = w := by simpa [active?] using active
      exact inside v c (active?_of_worker here) within
  · rw [interrupts]
    cases selection <;> exact congrArg (· + 1) cycle
  · intro _
    cases selection <;> rfl
  · intro unclear
    rw [clears] at unclear
    cases unclear

theorem Outside.starting {auto : Bool} (starting : Starting s.poller auto p) :
    Outside ⟨.start auto, s, ⟨p, none⟩⟩ := by
  cases starting with
  | running log live =>
    refine ⟨rfl, fun w c active _ => ⟨w, active, rfl⟩, ?_, ?_, ?_⟩ <;>
      simp [Transition.interrupts, Transition.clears, Transition.selects, live]
  | resumed log dead pending selected =>
    refine ⟨rfl, ?_, rfl, by simp [Transition.clears, Transition.selects],
      fun _ => ⟨rfl, List.suffix_refl _⟩⟩
    intro w c active inside
    obtain rfl : { Worker.spawn s.poller.spawned with signal := true } = w := by
      simpa [active?] using active
    cases inside
  | waiting log dead nothing =>
    refine ⟨rfl, ?_, rfl, by simp [Transition.clears, Transition.selects],
      fun _ => ⟨rfl, List.suffix_refl _⟩⟩
    intro w c active inside
    obtain rfl : Worker.spawn s.poller.spawned = w := by simpa [active?, manned] using active
    cases inside
  | selecting dead =>
    obtain ⟨log, selection⟩ := auto_selection s.poller
    refine .selection selection rfl rfl ?_ ?_ ?_
    · intro w c active inside
      obtain rfl : Worker.spawn s.poller.spawned = w := by simpa [active?, manned] using active
      cases inside
    · simp [Transition.clears, Transition.selects, dead]
    · simp [Transition.interrupts, Transition.clears, Transition.selects, dead]

theorem Outside.reset : Outside ⟨.reset, s, ⟨s.poller.reset, none⟩⟩ := by
  obtain ⟨log, h⟩ := reset_eq s.poller
  refine ⟨by rw [h], ?_, by rw [h]; rfl, fun _ => by rw [h]; rfl, by simp [Transition.clears]⟩
  intro w c active inside
  rw [h] at active
  cases here : s.poller.worker with
  | none => exact ⟨w, by simpa [active?, here] using active, rfl⟩
  | some v =>
    obtain rfl : { v with signal := false } = w := by simpa [active?, here] using active
    exact ⟨v, active?_of_worker here, rfl⟩

theorem Outside.stop (found : s.poller.worker = some w) (stopping : Option (Nat × Nat)) :
    Outside ⟨.stop, s, ⟨s.poller.takeWorker.2.retire, stopping⟩⟩ := by
  rw [stop_eq found]
  refine ⟨rfl, ?_, ?_, by simp [Transition.clears, Transition.selects],
    fun _ => ⟨rfl, List.suffix_refl _⟩⟩
  · intro v c active inside
    obtain rfl : { w with stop := true, closed := true } = v := by simpa [active?] using active
    exact ⟨w, active?_of_worker found, rfl⟩
  · simp [Transition.interrupts, found, System.shared]

theorem Outside.stopEnds {serial deadline : Nat} (sound : s.Sound)
    (waits : s.stopping = some (serial, deadline)) :
    Outside ⟨.stopEnds, s, ⟨s.poller.release serial, none⟩⟩ := by
  obtain ⟨absent, w, there, same, -⟩ := sound.stopping serial deadline waits
  obtain ⟨status, log, h⟩ := release_eq s.poller serial
  rw [h]
  refine ⟨rfl, ?_, rfl, by simp [Transition.clears, Transition.selects],
    fun _ => ⟨rfl, List.suffix_refl _⟩⟩
  intro v c active
  simp [active?, absent, there, same] at active

theorem get?_suffix (q : Queue) : q.get?.2.messages <:+ q.messages := by
  cases h : q.messages with
  | nil => simp [Queue.get?, h]
  | cons x xs => simp [Queue.get?, h]

/-- No move but a step of the worker makes a call or puts a message. -/
theorem Step.outside {move : Move} (sound : s.Sound) (step : Step m s move s')
    (other : move ≠ .work) : Outside ⟨move, s, s'⟩ := by
  cases step with
  | start auto free =>
    rw [update_of_free free]
    exact .starting (start_starting s.poller auto)
  | next free =>
    rw [update_of_free free]
    exact .selection sound.selection
      rfl rfl (fun w c active _ => ⟨w, active, rfl⟩) rfl rfl
  | reset free =>
    rw [update_of_free free]
    exact .reset
  | getMessage free => exact .plain rfl rfl rfl rfl rfl (get?_suffix _) rfl
  | getLastMessage free => exact .plain rfl rfl rfl rfl rfl List.nil_suffix rfl
  | waitEnds free done => exact .plain rfl rfl rfl rfl rfl (List.suffix_refl _) rfl
  | waitTimesOut limit free busy => exact .plain rfl rfl rfl rfl rfl (List.suffix_refl _) rfl
  | stopIdle free absent =>
    exact .plain rfl rfl rfl rfl rfl (List.suffix_refl _) (by simp [Transition.interrupts, absent])
  | stop free found => exact .stop found _
  | stopEnds waits ended => exact .stopEnds sound waits
  | work goes => exact absurd rfl other
  | pass ms => exact .plain rfl rfl rfl rfl rfl (List.suffix_refl _) rfl
  | setClock t => exact .plain rfl rfl rfl rfl rfl (List.suffix_refl _) rfl
  | tell event => exact .plain rfl rfl rfl rfl rfl (List.suffix_refl _) rfl

end System

/-- What is settled when a poller is made: its accounts, its settings, and which accounts there are
to select. -/
structure Keeps (p q : Poller ω φ) : Prop where
  accounts : q.accounts = p.accounts
  defaults : q.shared.defaults = p.shared.defaults
  enabled : p.shared.cursor.accounts = p.accounts.filter (·.enabled) →
    q.shared.cursor.accounts = p.accounts.filter (·.enabled)

namespace Keeps

variable {p q r : Poller ω φ}

theorem refl (p : Poller ω φ) : Keeps p p := ⟨rfl, rfl, id⟩

theorem trans (first : Keeps p q) (second : Keeps q r) : Keeps p r :=
  ⟨second.accounts.trans first.accounts, second.defaults.trans first.defaults,
    fun enabled => by
      rw [second.enabled (first.accounts ▸ first.enabled enabled), first.accounts]⟩

end Keeps

theorem Selection.keeps {p : Poller ω φ} {result : Bool × Poller ω φ} (h : Selection p result) :
    Keeps p result.2 := by
  cases h <;> exact ⟨rfl, rfl, (Cursor.accounts_advance _).trans⟩

theorem Starting.keeps {p q : Poller ω φ} {auto : Bool} (h : Starting p auto q) : Keeps p q := by
  cases h with
  | running log live => exact ⟨rfl, rfl, id⟩
  | resumed log dead pending selected => exact ⟨rfl, rfl, id⟩
  | waiting log dead nothing => exact ⟨rfl, rfl, id⟩
  | selecting dead =>
    obtain ⟨log, selection⟩ := auto_selection p
    exact ⟨selection.keeps.accounts, selection.keeps.defaults, selection.keeps.enabled⟩

namespace System

variable {m : Mailboxes ω φ} {s s' : System ω φ}

/-- Only a reset reads the accounts again, and finds the same. -/
theorem Step.keeps {move : Move} (sound : s.Sound) (step : Step m s move s') :
    Keeps s.poller s'.poller := by
  cases step with
  | start auto free => exact (start_starting s.poller auto).keeps
  | next free =>
    exact sound.selection.keeps
  | reset free => exact ⟨rfl, rfl, fun _ => rfl⟩
  | stop free found =>
    rw [stop_eq found]
    exact ⟨rfl, rfl, id⟩
  | @stopEnds serial deadline waits ended =>
    obtain ⟨status, log, released⟩ := release_eq s.poller serial
    rw [released]
    exact ⟨rfl, rfl, id⟩
  | work goes =>
    obtain ⟨w, r, made, put, turned⟩ := sound.turned goes
    have stays := turned.effect.stays
    refine ⟨?_, stays.defaults, (congrArg _ stays.cursor).trans⟩
    obtain ⟨⟩ := turned.worked <;> rfl
  | _ => exact ⟨rfl, rfl, id⟩

theorem Run.keeps {start : System ω φ} {h : History ω φ} (run : Run m start h s)
    (sound : start.Sound) : Keeps start.poller s.poller := by
  induction run with
  | nil => exact .refl _
  | cons past step ih => exact ih.trans (step.keeps (past.sound sound))

end System

end MailRound.Poller
