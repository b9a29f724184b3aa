import MailRound.Proofs.Poller.Operations
import MailRound.Proofs.Poller.WorkerStep

namespace MailRound.Poller

variable {ω φ : Type}

namespace Worker

variable {m : Mailboxes ω φ} {s : Shared ω} {w : Worker φ} {r : Step ω φ}

theorem begins?_eq_some {a : Account} : w.begins? s = some a ↔
    w.phase = .idle ∧ w.stop = false ∧ w.signal = true ∧ s.cursor.current? = some a := by
  unfold begins?
  cases w.phase <;> simp [and_assoc]

theorem batch?_eq_some {c : Cycle} {batch : List Message} : w.batch? s = some (c, batch) ↔
    ∃ f, w.phase = .fetching c f ∧ f.fate = .returns (.ok batch) ∧ f.due ≤ s.now := by
  constructor
  · intro h
    unfold batch? at h
    split at h
    · rename_i c' f phase
      split at h
      · rename_i batch' fate
        split at h
        · rename_i due
          obtain ⟨rfl, rfl⟩ := Prod.mk.inj (Option.some.inj h)
          exact ⟨f, phase, fate, due⟩
        · cases h
      · cases h
    · cases h
  · rintro ⟨f, phase, fate, due⟩
    simp [batch?, phase, fate, due]

theorem cycle?_of_batch? {c : Cycle} {batch : List Message} (h : w.batch? s = some (c, batch)) :
    w.cycle? = some c := by
  obtain ⟨f, phase, -⟩ := batch?_eq_some.1 h
  simp [cycle?, phase]

theorem begins?_of_cycle? {c : Cycle} (h : w.cycle? = some c) : w.begins? s = none := by
  cases begins : w.begins? s with
  | none => rfl
  | some a =>
    rw [cycle?, (begins?_eq_some.1 begins).1] at h
    cases h

/-- An installed worker agrees with the shared state. -/
structure Fits (s : Shared ω) (w : Worker φ) : Prop where
  running : w.stop = false
  accepting : w.closed = false
  here : w.phase ≠ .exited
  started : ∀ c, w.cycle? = some c → c.generation ≤ s.cycle
  current : ∀ c, w.cycle? = some c → c.generation = s.cycle →
    s.cursor.current? = some c.account ∧ w.signal = false ∧ s.processing = true
  signalled : w.signal = true → s.cursor.current?.isSome = true → s.processing = true

theorem Fits.congr {s' : Shared ω} (h : w.Fits s) (cycle : s'.cycle = s.cycle)
    (cursor : s'.cursor = s.cursor) (flag : s'.processing = s.processing) : w.Fits s' := by
  refine ⟨h.running, h.accepting, h.here, ?_, ?_, ?_⟩
  · rw [cycle]
    exact h.started
  · rw [cycle, cursor, flag]
    exact h.current
  · rw [cursor, flag]
    exact h.signalled

theorem Fits.bump {s' : Shared ω} (h : w.Fits s) (cycle : s'.cycle = s.cycle + 1) {signal : Bool}
    (signalled : signal = true → s'.cursor.current?.isSome = true → s'.processing = true) :
    ({ w with signal := signal } : Worker φ).Fits s' := by
  refine ⟨h.running, h.accepting, h.here, ?_, ?_, signalled⟩
  · intro c inside
    have := h.started c inside
    omega
  · intro c inside newest
    have := h.started c inside
    omega

structure Leaves (s : Shared ω) (w : Worker φ) : Prop where
  stopped : w.stop = true
  behind : ∀ c, w.cycle? = some c → c.generation < s.cycle

theorem Fits.outside (running : w.stop = false) (accepting : w.closed = false)
    (here : w.phase ≠ .exited) (outside : w.cycle? = none)
    (signalled : w.signal = true → s.cursor.current?.isSome = true → s.processing = true) :
    w.Fits s := by
  refine ⟨running, accepting, here, ?_, ?_, signalled⟩
  · intro c inside
    rw [outside] at inside
    cases inside
  · intro c inside
    rw [outside] at inside
    cases inside

theorem Fits.goes {c : Cycle} (h : w.Fits s) (stays : s.Stays r.1) (goes : Goes s w c r)
    (started : c.generation ≤ s.cycle)
    (current : c.generation = s.cycle →
      s.cursor.current? = some c.account ∧ w.signal = false ∧ s.processing = true) :
    r.2.Fits r.1 := by
  cases goes with
  | rests self flag =>
    rw [self]
    refine .outside h.running h.accepting (by simp) rfl ?_
    -- The end of a cycle leaves the flag up if another signal waits.
    intro signal chosen
    rw [stays.cursor] at chosen
    rw [flag, show w.signal = true from signal]
    exact h.signalled signal chosen
  | goesOn phase c' self inside account generation flag =>
    have only : ∀ d, r.2.cycle? = some d → d = c' := fun d hd => by
      rw [inside] at hd
      exact (Option.some.inj hd).symm
    refine ⟨by rw [self]; exact h.running, by rw [self]; exact h.accepting, ?_, ?_, ?_, ?_⟩
    · intro exited
      rw [cycle?, exited] at inside
      cases inside
    · intro d hd
      rw [only d hd, generation, stays.cycle]
      exact started
    · intro d hd newest
      rw [only d hd, generation, stays.cycle] at newest
      obtain ⟨selected, unsignalled, busy⟩ := current newest
      rw [only d hd, stays.cursor, account, flag, self]
      exact ⟨selected, unsignalled, busy⟩
    · intro signal chosen
      rw [self] at signal
      rw [stays.cursor] at chosen
      rw [flag]
      exact h.signalled signal chosen

theorem Fits.turn {made : List Call} {put : List Message} (h : w.Fits s)
    (effect : s.Effect made put r.1) (turn : Turn s w made put r) : r.2.Fits r.1 := by
  cases turn with
  | wakes fresh self flag quiet empty =>
    rw [self]
    refine .outside h.running h.accepting (by simp) rfl ?_
    rw [flag, effect.stays.cursor]
    exact h.signalled
  | exits idle why self flag quiet empty =>
    rw [h.running, h.accepting] at why
    simp at why
  | skips idle go signal unselected self flag quiet empty =>
    rw [self]
    exact .outside h.running h.accepting (by simp) rfl (by simp)
  | begins account selected goes calls empty =>
    obtain ⟨idle, -, signal, chosen⟩ := begins?_eq_some.1 selected
    have busy : s.processing = true := h.signalled signal (by rw [chosen]; rfl)
    have taken : ({ w with signal := false } : Worker φ).Fits s :=
      ⟨h.running, h.accepting, h.here, h.started,
        fun c hc newest => ⟨(h.current c hc newest).1, rfl, busy⟩, fun _ _ => busy⟩
    exact taken.goes effect.stays goes (Nat.le_refl _) fun _ => ⟨chosen, rfl, busy⟩
  | lands c batch fetched goes taken =>
    have inside := cycle?_of_batch? fetched
    exact h.goes effect.stays goes (h.started c inside) (h.current c inside)
  | goesOn c inside other goes calls unmarked empty =>
    exact h.goes effect.stays goes (h.started c inside) (h.current c inside)
  | dies c inside other message self flag quiet empty =>
    rw [self]
    refine .outside h.running h.accepting (by simp) rfl ?_
    rw [flag, effect.stays.cursor]
    exact h.signalled

theorem Leaves.goes {c : Cycle} (h : w.Leaves s) (stays : s.Stays r.1) (goes : Goes s w c r)
    (inside : w.cycle? = some c) : r.2.Leaves r.1 ∧ r.1.processing = s.processing := by
  cases goes with
  | rests self flag =>
    refine ⟨⟨by rw [self]; exact h.stopped, by rw [self]; simp [cycle?]⟩, ?_⟩
    simpa [h.stopped] using flag
  | goesOn phase c' self within account generation flag =>
    refine ⟨⟨by rw [self]; exact h.stopped, ?_⟩, flag⟩
    intro d hd
    rw [within] at hd
    rw [← Option.some.inj hd, generation, stays.cycle]
    exact h.behind c inside

theorem Leaves.turn {made : List Call} {put : List Message} (h : w.Leaves s)
    (effect : s.Effect made put r.1) (turn : Turn s w made put r) :
    r.2.Leaves r.1 ∧ r.1.processing = s.processing := by
  cases turn with
  | wakes fresh self flag quiet empty =>
    exact ⟨⟨by rw [self]; exact h.stopped, by rw [self]; simp [cycle?]⟩, flag⟩
  | exits idle why self flag quiet empty =>
    exact ⟨⟨by rw [self]; exact h.stopped, by rw [self]; simp [cycle?]⟩, flag⟩
  | skips idle go signal unselected self flag quiet empty =>
    rw [h.stopped] at go
    cases go
  | begins account selected goes calls empty =>
    have go := (begins?_eq_some.1 selected).2.1
    rw [h.stopped] at go
    cases go
  | lands c batch fetched goes taken => exact h.goes effect.stays goes (cycle?_of_batch? fetched)
  | goesOn c inside other goes calls unmarked empty => exact h.goes effect.stays goes inside
  | dies c inside other message self flag quiet empty =>
    exact ⟨⟨by rw [self]; exact h.stopped, by rw [self]; simp [cycle?]⟩, flag⟩

/-- A worker keeps its serial number and its orders. -/
theorem Turn.orders {made : List Call} {put : List Message} (turn : Turn s w made put r) :
    r.2.serial = w.serial ∧ r.2.stop = w.stop ∧ r.2.closed = w.closed := by
  have goes {c : Cycle} {v : Worker φ} (h : Goes s v c r) :
      r.2.serial = v.serial ∧ r.2.stop = v.stop ∧ r.2.closed = v.closed := by
    cases h with
    | rests self flag => simp [self]
    | goesOn phase c' self inside account generation flag => simp [self]
  cases turn with
  | wakes fresh self flag quiet empty => simp [self]
  | exits idle why self flag quiet empty => simp [self]
  | skips idle go signal unselected self flag quiet empty => simp [self]
  | begins account selected h calls empty => exact goes (v := { w with signal := false }) h
  | lands c batch fetched h taken => exact goes h
  | goesOn c inside other h calls unmarked empty => exact goes h
  | dies c inside other message self flag quiet empty => simp [self]

end Worker

namespace System

/-- What holds in every state of a run. -/
structure Sound (s : System ω φ) : Prop where
  installed : ∀ w, s.poller.worker = some w → w.Fits s.shared
  free : s.stopping = none → s.poller.leaving = []
  stopping : ∀ serial deadline, s.stopping = some (serial, deadline) → s.poller.worker = none ∧
    ∃ w, s.poller.leaving = [w] ∧ w.serial = serial ∧ w.Leaves s.shared
  pending : s.shared.pending = true →
    s.poller.worker = none ∧ s.shared.cursor.current?.isSome = true
  unattended : s.poller.worker = none → s.shared.processing = false

variable {m : Mailboxes ω φ} {s s' : System ω φ}

theorem sound_new (roster : Roster) (defaults : Polling) (world : ω) (clock : Calendar.Instant) :
    (System.new roster defaults world clock : System ω φ).Sound := by
  constructor <;> simp [System.new, Poller.new, Shared.note]

/-- Where the worker of a step is: installed, or leaving. -/
inductive Worked (s : System ω φ) (w : Worker φ) (r : Worker.Step ω φ) : Poller ω φ → Prop
  | installed (free : s.stopping = none) (here : s.poller.worker = some w) :
    Worked s w r { s.poller with shared := r.1, worker := some r.2 }
  | leaving (absent : s.poller.worker = none) (there : s.poller.leaving = [w]) :
    Worked s w r { s.poller with shared := r.1, leaving := [r.2] }

theorem Sound.worked {p : Poller ω φ} (sound : s.Sound) (goes : s.poller.stepWorker m = some p) :
    ∃ w r, w.step m s.shared = some r ∧ Worked s w r p := by
  unfold stepWorker stepInstalled at goes
  cases here : s.poller.worker with
  | none =>
    cases waits : s.stopping with
    | none => simp [here, sound.free waits, stepFirst] at goes
    | some stop =>
      obtain ⟨-, w, there, -, -⟩ := sound.stopping stop.1 stop.2 waits
      cases step : w.step m s.shared with
      | none => simp [here, there, stepFirst, step] at goes
      | some r =>
        simp only [here, there, stepFirst, step, Option.map_some, Option.some.injEq] at goes
        exact ⟨w, r, step, goes ▸ here ▸ .leaving here there⟩
  | some w =>
    -- While a worker is installed no stop waits, so there is no second one that could go on.
    have free : s.stopping = none := by
      cases waits : s.stopping with
      | none => rfl
      | some stop => simp [(sound.stopping stop.1 stop.2 waits).1] at here
    cases step : w.step m s.shared with
    | none => simp [here, step, sound.free free, stepFirst] at goes
    | some r =>
      simp only [here, step, Option.map_some, Option.some.injEq] at goes
      exact ⟨w, r, step, goes ▸ .installed free here⟩

theorem Worked.active {w : Worker φ} {r : Worker.Step ω φ} {p : Poller ω φ}
    (h : Worked s w r p) : s.poller.active? = some w ∧ p.active? = some r.2 ∧ p.shared = r.1 := by
  cases h with
  | installed free here => exact ⟨by simp [active?, here], by simp [active?], rfl⟩
  | leaving absent there => exact ⟨by simp [active?, absent, there], by simp [active?, absent], rfl⟩

theorem Sound.work {p : Poller ω φ} (sound : s.Sound) (goes : s.poller.stepWorker m = some p) :
    Sound { s with poller := p } := by
  obtain ⟨w, r, step, worked⟩ := sound.worked goes
  obtain ⟨made, put, effect, turn⟩ := Worker.step_turn step
  cases worked with
  | installed free here =>
    refine ⟨?_, sound.free, ?_, ?_, ?_⟩
    · intro w' h
      rw [← Option.some.inj h]
      exact (sound.installed w here).turn effect turn
    · intro serial deadline waits
      simp [free] at waits
    · intro pending
      have absent := (sound.pending (effect.stays.pending ▸ pending)).1
      simp [here] at absent
    · intro absent
      cases absent
  | leaving absent there =>
    refine ⟨?_, ?_, ?_, ?_, ?_⟩
    · intro w' h
      simp [absent] at h
    · intro free
      simp [sound.free free] at there
    · intro serial deadline waits
      obtain ⟨-, w', there', same, leaves⟩ := sound.stopping serial deadline waits
      obtain rfl : w = w' := by simpa [there] using there'
      exact ⟨absent, r.2, rfl, turn.orders.1.trans same, (leaves.turn effect turn).1⟩
    · intro pending
      have h := sound.pending (effect.stays.pending ▸ pending)
      exact ⟨h.1, effect.stays.cursor.symm ▸ h.2⟩
    -- The flag was down before, and a worker that leaves does not touch it.
    · intro _
      cases waits : s.stopping with
      | none => simp [sound.free waits] at there
      | some stop =>
        obtain ⟨-, w', there', -, leaves⟩ := sound.stopping stop.1 stop.2 waits
        obtain rfl : w = w' := by simpa [there] using there'
        exact ((leaves.turn effect turn).2).trans (sound.unattended absent)

theorem Sound.frame {p : Poller ω φ} (sound : s.Sound) (worker : p.worker = s.poller.worker)
    (leaving : p.leaving = s.poller.leaving) (cycle : p.shared.cycle = s.shared.cycle)
    (cursor : p.shared.cursor = s.shared.cursor) (pending : p.shared.pending = s.shared.pending)
    (flag : p.shared.processing = s.shared.processing) : Sound { s with poller := p } := by
  refine ⟨?_, ?_, ?_, ?_, ?_⟩
  · intro w here
    exact (sound.installed w (worker ▸ here)).congr cycle cursor flag
  · exact fun free => leaving.trans (sound.free free)
  · intro serial deadline waits
    obtain ⟨absent, w, there, same, leaves⟩ := sound.stopping serial deadline waits
    exact ⟨worker.trans absent, w, leaving.trans there, same,
      ⟨leaves.stopped, fun c inside => cycle ▸ leaves.behind c inside⟩⟩
  · intro h
    obtain ⟨absent, chosen⟩ := sound.pending (pending ▸ h)
    exact ⟨worker.trans absent, cursor ▸ chosen⟩
  · exact fun absent => flag.trans (sound.unattended (worker ▸ absent))

theorem sound_of_selection {p : Poller ω φ} {result : Bool × Poller ω φ}
    (selection : Selection p result) (installed : ∀ w, p.worker = some w → w.Fits p.shared)
    (alone : p.leaving = []) (unattended : p.worker = none → p.shared.processing = false) :
    Sound ⟨result.2, none⟩ := by
  cases selection with
  | exhausted log past =>
    refine ⟨?_, fun _ => alone, by simp, by simp, fun _ => rfl⟩
    intro w here
    refine (installed w here).bump rfl fun _ chosen => ?_
    simp [advanced, past] at chosen
  | deferred log chosen absent =>
    refine ⟨?_, fun _ => alone, by simp, fun _ => ⟨absent, chosen⟩, unattended⟩
    intro w here
    simp [absent] at here
  | signalled log chosen w here =>
    refine ⟨?_, fun _ => alone, by simp, by simp, by simp⟩
    intro w' h
    rw [← Option.some.inj h]
    exact (installed w here).bump rfl fun _ _ => rfl

theorem Sound.selection (sound : s.Sound) : Selection s.poller s.poller.next :=
  next_selection s.poller fun w here => (sound.installed w here).accepting

theorem Sound.next (sound : s.Sound) (free : s.stopping = none) :
    Sound ⟨s.poller.next.2, none⟩ :=
  sound_of_selection sound.selection sound.installed (sound.free free) sound.unattended

theorem Sound.starting {auto : Bool} {p : Poller ω φ} (sound : s.Sound) (free : s.stopping = none)
    (starting : Starting s.poller auto p) : Sound ⟨p, none⟩ := by
  have alone := sound.free free
  cases starting with
  | running log live =>
    rw [← free]
    exact sound.frame rfl rfl rfl rfl rfl rfl
  | resumed log dead pending selected =>
    refine ⟨?_, fun _ => alone, by simp, by simp, by simp⟩
    intro w here
    rw [← Option.some.inj here]
    exact .outside rfl rfl (by simp [Worker.spawn]) rfl fun _ _ => rfl
  | waiting log dead nothing =>
    refine ⟨?_, fun _ => alone, by simp, by simp, by simp [manned]⟩
    intro w here
    rw [← Option.some.inj here]
    exact .outside rfl rfl (by simp [Worker.spawn]) rfl (by simp [Worker.spawn])
  | selecting dead =>
    obtain ⟨log, selection⟩ := auto_selection s.poller
    refine sound_of_selection selection ?_ alone (by simp [manned])
    intro w here
    rw [← Option.some.inj here]
    exact .outside rfl rfl (by simp [Worker.spawn]) rfl (by simp [Worker.spawn])

theorem Sound.reset (sound : s.Sound) (free : s.stopping = none) :
    Sound ⟨s.poller.reset, none⟩ := by
  obtain ⟨log, h⟩ := reset_eq s.poller
  rw [h]
  refine ⟨?_, fun _ => sound.free free, by simp, by simp, fun _ => rfl⟩
  intro w here
  obtain ⟨v, there, rfl⟩ := Option.map_eq_some_iff.1 here
  exact (sound.installed v there).bump rfl (by simp)

theorem Sound.stop {w : Worker φ} (sound : s.Sound) (free : s.stopping = none)
    (found : s.poller.worker = some w) (deadline : Nat) :
    Sound ⟨s.poller.takeWorker.2.retire, some (w.serial, deadline)⟩ := by
  rw [stop_eq found]
  refine ⟨by simp, by simp, ?_, ?_, fun _ => rfl⟩
  · intro serial deadline h
    obtain ⟨rfl, rfl⟩ := Prod.mk.inj (Option.some.inj h)
    refine ⟨rfl, { w with stop := true, closed := true }, by rw [sound.free free], rfl, rfl, ?_⟩
    -- A stop counts as a selection, so the cycle of its worker is behind.
    intro c inside
    exact Nat.lt_succ_of_le ((sound.installed w found).started c inside)
  · intro pending
    have absent := (sound.pending pending).1
    rw [found] at absent
    cases absent

theorem Sound.stopEnds {serial deadline : Nat} (sound : s.Sound)
    (waits : s.stopping = some (serial, deadline)) : Sound ⟨s.poller.release serial, none⟩ := by
  obtain ⟨absent, w, there, same, leaves⟩ := sound.stopping serial deadline waits
  obtain ⟨status, log, h⟩ := release_eq s.poller serial
  rw [h]
  refine ⟨?_, ?_, by simp, sound.pending, sound.unattended⟩
  · intro v here
    rw [absent] at here
    cases here
  · intro _
    simp [there, same]

theorem update_of_free (free : s.stopping = none) (f : Poller ω φ → Poller ω φ) :
    s.update f = ⟨f s.poller, none⟩ := by
  simp only [update, free]

/-- Every move keeps the worker and the shared state in agreement. -/
theorem Sound.step {move : Move} (sound : s.Sound) (step : Step m s move s') : s'.Sound := by
  cases step with
  | start auto free =>
    rw [update_of_free free]
    exact sound.starting free (start_starting s.poller auto)
  | next free =>
    rw [update_of_free free]
    exact sound.next free
  | reset free =>
    rw [update_of_free free]
    exact sound.reset free
  | getMessage free => exact sound.frame rfl rfl rfl rfl rfl rfl
  | getLastMessage free => exact sound.frame rfl rfl rfl rfl rfl rfl
  | waitEnds free done => exact sound
  | waitTimesOut limit free busy => exact sound.frame rfl rfl rfl rfl rfl rfl
  | stopIdle free absent => exact sound
  | stop free found => exact sound.stop free found _
  | stopEnds waits ended => exact sound.stopEnds waits
  | work goes => exact sound.work goes
  | pass ms => exact sound.frame rfl rfl rfl rfl rfl rfl
  | setClock t => exact sound.frame rfl rfl rfl rfl rfl rfl
  | tell event => exact sound.frame rfl rfl rfl rfl rfl rfl

theorem Run.sound {start : System ω φ} {h : History ω φ} (run : Run m start h s)
    (sound : start.Sound) : s.Sound := by
  induction run with
  | nil => exact sound
  | cons past step ih => exact ih.step step

end System

end MailRound.Poller
