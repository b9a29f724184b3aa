import MailRound.Proofs.Poller.Leg
import MailRound.Proofs.Round.Loop

namespace MailRound.Poller

variable {ω φ : Type}

/-- A bound on the steps that lead from a phase to the end of a worker: five for each attempt. -/
def Phase.toil (defaults : Polling) : Phase φ → Nat
  | .fresh => 2
  | .idle => 1
  | .connecting c _ => 5 * c.left defaults + 6
  | .fetching c _ => 5 * c.left defaults + 5
  | .marking c _ _ => 5 * c.left defaults + 4
  | .disconnecting c _ _ => 5 * c.left defaults + 3
  | .pausing c _ => 5 * (c.most defaults - c.attempts) + 2
  | .exited => 0
  | .panicked _ => 0

namespace Worker

/-- The steps that a signal adds, also where no account is selected. -/
def pledge (defaults : Polling) (current? : Option Account) (w : Worker φ) : Nat :=
  if w.signal then current?.elim 1 (Plain.share defaults) else 0

def effort (defaults : Polling) (current? : Option Account) (w : Worker φ) : Nat :=
  w.phase.toil defaults + w.pledge defaults current?

variable {m : Mailboxes ω φ} {s : Shared ω} {w : Worker φ} {c : Cycle} {r : Step ω φ}
  {made : List Call} {put : List Message} {after : Phase φ} {defaults : Polling}
  {current? : Option Account}

theorem pledge_of_silent (silent : w.signal = false) : w.pledge defaults current? = 0 := by
  simp [pledge, silent]

theorem pledge_pos (signal : w.signal = true) : 0 < w.pledge defaults current? := by
  cases current? <;> simp [pledge, signal, Plain.share]

theorem pledge_le {most : Nat}
    (selected : ∀ a, current? = some a → Plain.limit defaults a ≤ most) :
    w.pledge defaults current? ≤ 5 * most + 1 := by
  cases signal : w.signal with
  | false =>
    rw [pledge_of_silent signal]
    exact Nat.zero_le _
  | true =>
    cases current? with
    | none => simp [pledge, signal]
    | some a =>
      have few := selected a rfl
      simp only [pledge, signal, if_true, Option.elim_some, Plain.share]
      omega

theorem toil_le {most : Nat} (inside : ∀ c, w.cycle? = some c → c.most defaults ≤ most) :
    w.phase.toil defaults ≤ 5 * most + 6 := by
  have left (c : Cycle) (within : w.cycle? = some c) :
      c.left defaults ≤ most ∧ c.most defaults - c.attempts ≤ most := by
    have few := inside c within
    unfold Cycle.left
    omega
  cases phase : w.phase with
  | connecting c f =>
    have few := left c (by simp [cycle?, phase])
    simp only [Phase.toil]
    omega
  | fetching c f =>
    have few := left c (by simp [cycle?, phase])
    simp only [Phase.toil]
    omega
  | marking c f e =>
    have few := left c (by simp [cycle?, phase])
    simp only [Phase.toil]
    omega
  | disconnecting c f result =>
    have few := left c (by simp [cycle?, phase])
    simp only [Phase.toil]
    omega
  | pausing c due =>
    have few := left c (by simp [cycle?, phase])
    simp only [Phase.toil]
    omega
  | _ => simp [Phase.toil]

theorem Ends.toil {most : Nat} {result : Attempt} (limit : c.most defaults = most)
    (ends : Ends most c result after) : after.toil defaults ≤ 5 * c.left defaults + 2 := by
  subst limit
  cases ends with
  | pauses counts left due => exact Nat.le_refl _
  | spends counts spent => exact Nat.le_add_left _ _
  | drops late => exact Nat.le_add_left _ _
  | skips tag unknown => exact Nat.le_add_left _ _

theorem Tries.toil (tries : Tries m s w c made after) :
    after.toil s.defaults ≤ 5 * (c.most s.defaults - c.attempts) + 1 := by
  have counts (left : c.attempts < (c.polling s).maxPollCount) :
      5 * c.left s.defaults + 5 = 5 * (c.most s.defaults - c.attempts) := by
    rw [c.polling_maxPollCount s] at left
    unfold Cycle.left
    omega
  cases tries with
  | ceases why => exact Nat.le_add_left _ _
  | refused left why answer ends =>
    have few := ends.toil (c.polling_maxPollCount s).symm
    have count := counts left
    omega
  | connects left fetcher answer flight =>
    have count := counts left
    simp only [Phase.toil]
    omega

theorem Turn.signal_le (turn : Turn s w made put r) (up : r.2.signal = true) :
    w.signal = true := by
  have goes {v : Worker φ} {c : Cycle} (goes : Goes s v c r) : v.signal = true := by
    cases goes with
    | rests self flag => simpa [self] using up
    | goesOn phase c' self inside account generation flag => simpa [self] using up
  cases turn with
  | wakes fresh self flag quiet empty => simpa [self] using up
  | exits idle why self flag quiet empty => simpa [self] using up
  | skips idle go signal unselected self flag quiet empty => exact signal
  | begins account selected h calls empty => exact (begins?_eq_some.1 selected).2.2.1
  | lands c batch fetched h taken => exact goes h
  | goesOn c inside other h calls unmarked empty => exact goes h
  | dies c inside other message self flag quiet empty => simpa [self] using up

theorem Turn.takes (turn : Turn s w made put r) (idle : w.phase = .idle)
    (here : r.2.phase ≠ .exited) : w.signal = true ∧ r.2.signal = false := by
  have outside : w.cycle? = none := by simp [cycle?, idle]
  cases turn with
  | wakes fresh self flag quiet empty => simp [idle] at fresh
  | exits _ why self flag quiet empty => simp [self] at here
  | skips _ go signal unselected self flag quiet empty => exact ⟨signal, by rw [self]⟩
  | begins account selected goes calls empty =>
    refine ⟨(begins?_eq_some.1 selected).2.2.1, ?_⟩
    cases goes with
    | rests self flag => rw [self]
    | goesOn phase c' self inside account generation flag => rw [self]
  | lands c batch fetched goes taken => simp [cycle?_of_batch? fetched] at outside
  | goesOn c inside other goes calls unmarked empty => simp [inside] at outside
  | dies c inside other message self flag quiet empty => simp [inside] at outside

theorem toil_pos_of_hears {event : Event} (heard : w.hears? s = some event) :
    0 < w.phase.toil defaults := by
  cases phase : w.phase <;> simp_all [hears?, Phase.toil]

/-- A leg lessens the toil, or begins with a signal and stays within what that adds. -/
theorem Leg.toil (leg : Leg m s w made put after) :
    after.toil s.defaults < w.phase.toil s.defaults ∨ w.phase = .idle ∧ after ≠ .exited ∧
      after.toil s.defaults ≤ (w.begins? s).elim 1 (Plain.share s.defaults) := by
  cases leg with
  | wakes phase =>
    rw [phase]
    exact .inl (Nat.lt_succ_self 1)
  | exits phase none =>
    rw [phase]
    exact .inl Nat.zero_lt_one
  | skips phase none =>
    refine .inr ⟨phase, by simp, ?_⟩
    rw [none]
    exact Nat.le_refl 1
  | begins a begins tries =>
    refine .inr ⟨(begins?_eq_some.1 begins).1, ?_, ?_⟩
    · rintro rfl
      cases tries with
      | refused left why answer ends => cases ends
    · rw [begins]
      exact tries.toil
  | ends c f result phase due answer back ends =>
    rw [phase]
    exact .inl (Nat.lt_succ_of_le (ends.toil (c.polling_maxPollCount s).symm))
  | abandons c due phase why =>
    rw [phase]
    exact .inl (Nat.succ_lt_succ (Nat.succ_pos _))
  | again c due phase tries =>
    rw [phase]
    exact .inl (Nat.lt_succ_of_le tries.toil)
  | dies message heard => exact .inl (toil_pos_of_hears heard)
  -- The other legs are those of one attempt, in their order.
  | disconnects c f phase due why back flight =>
    rw [phase]
    exact .inl (Nat.add_lt_add_left (by decide) _)
  | connected c f phase due back flight =>
    rw [phase]
    exact .inl (Nat.add_lt_add_left (by decide) _)
  | unfetched c f phase due why back flight =>
    rw [phase]
    exact .inl (Nat.add_lt_add_left (by decide) _)
  | late c f phase due batch back stale flight =>
    rw [phase]
    exact .inl (Nat.add_lt_add_left (by decide) _)
  | takes c f phase due batch back current unmarked flight =>
    rw [phase]
    exact .inl (Nat.add_lt_add_left (by decide) _)
  | marks c f phase due batch back current asked some flight e =>
    rw [phase]
    exact .inl (Nat.add_lt_add_left (by decide) _)
  | marked c f e phase due result back flight =>
    rw [phase]
    exact .inl (Nat.add_lt_add_left (by decide) _)

/-- Every step of a worker lessens what it still has to do. -/
theorem step_effort (h : w.step m s = some r) :
    r.2.effort r.1.defaults r.1.cursor.current? < w.effort s.defaults s.cursor.current? := by
  obtain ⟨made, put, effect, turn⟩ := step_turn h
  obtain ⟨_, _, _, leg⟩ := step_leg h
  rw [effect.stays.defaults, effect.stays.cursor]
  unfold effort
  obtain less | ⟨idle, here, few⟩ := leg.toil
  · have kept : r.2.pledge s.defaults s.cursor.current? ≤
        w.pledge s.defaults s.cursor.current? := by
      cases up : r.2.signal with
      | false =>
        rw [pledge_of_silent up]
        exact Nat.zero_le _
      | true =>
        exact Nat.le_of_eq (by simp only [pledge, up, turn.signal_le up])
    omega
  -- The signal is taken, so what it added pays for the leg.
  · obtain ⟨signal, silent⟩ := turn.takes idle here
    have paid : (w.begins? s).elim 1 (Plain.share s.defaults) ≤
        w.pledge s.defaults s.cursor.current? := by
      cases begins : w.begins? s with
      | none => exact pledge_pos signal
      | some a => simp [pledge, signal, (begins?_eq_some.1 begins).2.2.2]
    have one : (Phase.idle : Phase φ).toil s.defaults = 1 := rfl
    rw [idle, pledge_of_silent silent, one]
    omega

theorem step_of_due {t : Nat} (due : w.due? = some t) (come : t ≤ s.now) :
    (w.step m s).isSome = true := by
  have lands {α : Type} {f : Flight φ α} (next : φ → Outcome α → Step ω φ) (h : f.due ≤ s.now) :
      (land s w f next).isSome = true := by
    rw [land, if_pos h]
    cases f.fate <;> rfl
  unfold due? at due
  unfold step
  cases phase : w.phase with
  | connecting c f => exact lands _ (by simp_all)
  | fetching c f => exact lands _ (by simp_all)
  | marking c f e => exact lands _ (by simp_all)
  | disconnecting c f result => exact lands _ (by simp_all)
  | pausing c t' =>
    obtain rfl : t' = t := by simpa [phase] using due
    simp only [if_pos come]
    split <;> rfl
  | _ => simp [phase] at due

/-- A worker that cannot go on waits for the time, or has nothing to do. -/
theorem waits_of_step_none (h : w.step m s = none) (alive : w.finished = false) :
    (∃ t, w.due? = some t ∧ s.now < t) ∨ w.cycle? = none ∧ w.signal = false := by
  have still {t : Nat} (due : w.due? = some t) : ∃ t, w.due? = some t ∧ s.now < t := by
    refine ⟨t, due, Nat.lt_of_not_le fun come => ?_⟩
    have goes := step_of_due (m := m) due come
    rw [h] at goes
    cases goes
  cases phase : w.phase with
  | fresh => simp [step, phase] at h
  | idle =>
    refine .inr ⟨by simp [cycle?, phase], ?_⟩
    cases signal : w.signal with
    | false => rfl
    | true =>
      simp only [step, phase] at h
      split at h <;> simp at h
  | connecting c f => exact .inl (still (t := f.due) (by simp [due?, phase]))
  | fetching c f => exact .inl (still (t := f.due) (by simp [due?, phase]))
  | marking c f e => exact .inl (still (t := f.due) (by simp [due?, phase]))
  | disconnecting c f result => exact .inl (still (t := f.due) (by simp [due?, phase]))
  | pausing c t => exact .inl (still (t := t) (by simp [due?, phase]))
  | exited => simp [finished, phase] at alive
  | panicked message => simp [finished, phase] at alive

end Worker

def effort (p : Poller ω φ) : Nat :=
  p.active?.elim 0 (·.effort p.shared.defaults p.shared.cursor.current?)

def atTime (p : Poller ω φ) (t : Nat) : Poller ω φ := p.modify fun s => { s with now := t }

/-- Time jumps to this moment when no worker can go on: the next at which one goes on by itself, but
not past the deadline. -/
def jump (deadline : Nat) (p : Poller ω φ) : Nat :=
  max (p.nextDue.elim deadline (min · deadline)) p.shared.now

theorem runUntil_of_step {m : Mailboxes ω φ} {p p' : Poller ω φ} (goes : p.stepWorker m = some p')
    (done : Poller ω φ → Bool) (deadline fuel : Nat) :
    runUntil m done deadline (fuel + 1) p = runUntil m done deadline fuel p' := by
  simp only [runUntil, goes]

theorem runUntil_of_ended {m : Mailboxes ω φ} {p : Poller ω φ} (stuck : p.stepWorker m = none)
    {done : Poller ω φ → Bool} {deadline : Nat} (ended : done p = true ∨ deadline ≤ p.shared.now)
    (fuel : Nat) : runUntil m done deadline fuel p = p := by
  cases fuel with
  | zero => rfl
  | succ fuel => simp only [runUntil, stuck, if_pos ended]

theorem runUntil_of_waits {m : Mailboxes ω φ} {p : Poller ω φ} (stuck : p.stepWorker m = none)
    {done : Poller ω φ → Bool} {deadline : Nat}
    (waits : ¬(done p = true ∨ deadline ≤ p.shared.now)) (fuel : Nat) :
    runUntil m done deadline (fuel + 1) p =
      runUntil m done deadline fuel (p.atTime (jump deadline p)) := by
  unfold jump atTime
  simp only [runUntil, stuck, if_neg waits]
  cases p.nextDue <;> rfl

theorem le_foldl_max (xs : List Nat) (init : Nat) :
    init ≤ xs.foldl max init ∧ ∀ x ∈ xs, x ≤ xs.foldl max init := by
  induction xs generalizing init with
  | nil => simp
  | cons y ys ih =>
    obtain ⟨first, others⟩ := ih (max init y)
    rw [List.foldl_cons]
    refine ⟨by omega, List.forall_mem_cons.2 ⟨by omega, others⟩⟩

namespace System

variable {m : Mailboxes ω φ} {s s' : System ω φ} {p : Poller ω φ} {w : Worker φ}

theorem Sound.crew (sound : s.Sound) :
    s.poller.worker.toList ++ s.poller.leaving = s.poller.active?.toList := by
  cases waits : s.stopping with
  | none =>
    rw [sound.free waits, active?, sound.free waits]
    simp
  | some stop =>
    obtain ⟨absent, w, there, -, -⟩ := sound.stopping stop.1 stop.2 waits
    simp [active?, absent, there]

theorem Sound.nextDue (sound : s.Sound) :
    s.poller.nextDue = s.poller.active?.bind Worker.due? := by
  rw [Poller.nextDue, sound.crew]
  cases s.poller.active? with
  | none => rfl
  | some w => cases due : w.due? <;> simp [due, earliest]

theorem Sound.stuck (sound : s.Sound) : s.poller.stepWorker m = none ↔
    ∀ w, s.poller.active? = some w → w.step m s.shared = none := by
  constructor
  · intro stuck w active
    cases step : w.step m s.shared with
    | none => rfl
    | some r =>
      obtain ⟨here, -⟩ | ⟨absent, -⟩ := sound.active active
      · simp [stepWorker, stepInstalled, here, step] at stuck
      · obtain ⟨others, there⟩ : ∃ others, s.poller.leaving = w :: others := by
          simpa [active?, absent, List.head?_eq_some_iff] using active
        simp [stepWorker, stepInstalled, absent, there, stepFirst, step] at stuck
  · intro still
    cases goes : s.poller.stepWorker m with
    | none => rfl
    | some p =>
      obtain ⟨w, r, step, worked⟩ := sound.worked goes
      rw [still w worked.active.1] at step
      cases step

theorem Sound.lessens (sound : s.Sound) (goes : s.poller.stepWorker m = some p) :
    p.effort < s.poller.effort := by
  obtain ⟨w, r, step, worked⟩ := sound.worked goes
  obtain ⟨active, after, shared⟩ := worked.active
  simp only [Poller.effort, active, after, shared, Option.elim_some]
  exact Worker.step_effort step

theorem Sound.goes_of_due {t : Nat} (sound : s.Sound) (active : s.poller.active? = some w)
    (due : w.due? = some t) (come : t ≤ s.shared.now) :
    (s.poller.stepWorker m).isSome = true := by
  refine Option.isSome_iff_ne_none.2 fun stuck => ?_
  have goes := Worker.step_of_due (m := m) due come
  rw [sound.stuck.1 stuck w active] at goes
  cases goes

/-- After a jump a worker goes on, or the deadline has come. -/
theorem Sound.jumps (sound : s.Sound) (deadline : Nat) :
    ((s.poller.atTime (jump deadline s.poller)).stepWorker m).isSome = true ∨
      deadline ≤ jump deadline s.poller := by
  have later : (s.update (·.atTime (jump deadline s.poller))).Sound :=
    sound.frame rfl rfl rfl rfl rfl rfl
  cases due : s.poller.nextDue with
  | none =>
    refine .inr ?_
    rw [jump, due]
    exact Nat.le_max_left _ _
  | some t =>
    have moment : jump deadline s.poller = max (min t deadline) s.shared.now := by
      rw [jump, due, Option.elim_some]
    by_cases before : t ≤ deadline
    · rw [sound.nextDue] at due
      obtain ⟨w, active, waits⟩ := Option.bind_eq_some_iff.1 due
      refine .inl (later.goes_of_due active waits ?_)
      dsimp only [System.shared, update, atTime, modify] at moment ⊢
      omega
    · exact .inr (by omega)

/-- Workers go on and time passes, while the caller makes no move. -/
def Elapses (m : Mailboxes ω φ) (s s' : System ω φ) : Prop :=
  ∃ h, Run m s h s' ∧ ∀ t ∈ h, t.move.beside = true

theorem Elapses.refl (s : System ω φ) : Elapses m s s := ⟨[], .nil, by simp⟩

theorem Elapses.trans {s'' : System ω φ} (first : Elapses m s s') (second : Elapses m s' s'') :
    Elapses m s s'' := by
  obtain ⟨h, run, beside⟩ := first
  obtain ⟨h', run', beside'⟩ := second
  exact ⟨h' ++ h, run.append run', List.forall_mem_append.2 ⟨beside', beside⟩⟩

theorem Elapses.step {move : Move} (step : Step m s move s') (beside : move.beside = true) :
    Elapses m s s' :=
  ⟨_, .cons .nil step, by simpa using beside⟩

theorem Step.atTime (s : System ω φ) {t : Nat} (later : s.shared.now ≤ t) :
    Step m s (.pass (t - s.shared.now)) (s.update (·.atTime t)) := by
  have passes := Step.pass (m := m) (s := s) (t - s.shared.now)
  have come : s.poller.shared.now + (t - s.shared.now) = t := by
    dsimp only [System.shared] at later ⊢
    omega
  simpa only [update, Poller.atTime, modify, come] using passes

theorem elapses_runUntil (done : Poller ω φ → Bool) (deadline fuel : Nat) (s : System ω φ) :
    Elapses m s (s.update (runUntil m done deadline fuel)) := by
  induction fuel generalizing s with
  | zero => exact .refl s
  | succ fuel ih =>
    cases goes : s.poller.stepWorker m with
    | some p =>
      have rest := ih { s with poller := p }
      simp only [update, runUntil_of_step goes] at rest ⊢
      exact (Elapses.step (.work goes) rfl).trans rest
    | none =>
      by_cases ended : done s.poller = true ∨ deadline ≤ s.shared.now
      · simp only [update, runUntil_of_ended goes ended]
        exact .refl s
      · have rest := ih (s.update (·.atTime (jump deadline s.poller)))
        simp only [update, runUntil_of_waits goes ended] at rest ⊢
        exact (Elapses.step (.atTime s (Nat.le_max_right _ _)) rfl).trans rest

/-- With two units of fuel for each step, a run on one thread goes on to its end. -/
theorem Sound.runUntil_rests (sound : s.Sound) (done : Poller ω φ → Bool) (deadline fuel : Nat)
    (enough : 2 * s.poller.effort + 2 ≤ fuel ∨ 2 * s.poller.effort + 1 ≤ fuel ∧
      ((s.poller.stepWorker m).isSome = true ∨ deadline ≤ s.shared.now)) :
    (runUntil m done deadline fuel s.poller).stepWorker m = none ∧
      (done (runUntil m done deadline fuel s.poller) = true ∨
        deadline ≤ (runUntil m done deadline fuel s.poller).shared.now) := by
  -- A step takes one unit, and at most one jump in time comes before it.
  induction fuel generalizing s with
  | zero => omega
  | succ fuel ih =>
    cases goes : s.poller.stepWorker m with
    | some p =>
      rw [runUntil_of_step goes]
      have less := sound.lessens goes
      exact ih (sound.work goes) (.inl (by dsimp only; omega))
    | none =>
      by_cases ended : done s.poller = true ∨ deadline ≤ s.shared.now
      · rw [runUntil_of_ended goes ended]
        exact ⟨goes, ended⟩
      · have more : 2 * s.poller.effort + 2 ≤ fuel + 1 := by
          obtain more | ⟨-, stirs | come⟩ := enough
          · exact more
          · simp [goes] at stirs
          · exact absurd (.inr come) ended
        rw [runUntil_of_waits goes ended]
        refine ih (s := s.update (·.atTime (jump deadline s.poller)))
          (sound.frame rfl rfl rfl rfl rfl rfl) (.inr ⟨Nat.le_of_succ_le_succ more, ?_⟩)
        exact sound.jumps deadline

structure Listed (s : System ω φ) : Prop where
  enabled : s.shared.cursor.accounts = s.poller.accounts.filter (·.enabled)
  inside : ∀ w c, s.poller.active? = some w → w.cycle? = some c → c.account ∈ s.poller.accounts

theorem listed_new (roster : Roster) (defaults : Polling) (world : ω) (clock : Calendar.Instant) :
    (System.new roster defaults world clock : System ω φ).Listed :=
  ⟨rfl, fun _ _ active => nomatch active⟩

theorem Listed.selected {a : Account} (listed : s.Listed)
    (current : s.shared.cursor.current? = some a) : a ∈ s.poller.accounts := by
  obtain ⟨i, -, found⟩ := Option.bind_eq_some_iff.1 current
  have among := List.mem_of_getElem? found
  rw [listed.enabled] at among
  exact (List.mem_filter.1 among).1

theorem Step.listed {move : Move} (sound : s.Sound) (listed : s.Listed) (step : Step m s move s') :
    s'.Listed := by
  obtain ⟨accounts, -, enabled⟩ := step.keeps sound
  refine ⟨accounts ▸ enabled listed.enabled, fun v c active within => ?_⟩
  rw [accounts]
  by_cases work : move = .work
  · subst work
    cases step with
    | work goes =>
      obtain ⟨w, r, made, put, turned⟩ := sound.turned goes
      obtain ⟨was, now, -⟩ := turned.worked.active
      obtain rfl := Option.some.inj (now.symm.trans active)
      obtain ⟨begins, -⟩ | ⟨e, inside, same, -⟩ := turned.turn.inside within
      · exact listed.selected (Worker.begins?_eq_some.1 begins).2.2.2
      · exact same ▸ listed.inside w e was inside
  · obtain ⟨u, was, same⟩ := (step.outside sound work).inside v c active within
    exact listed.inside u c was ((Worker.cycle?_congr same).trans within)

theorem Run.listed {start : System ω φ} {h : History ω φ} (run : Run m start h s)
    (sound : start.Sound) (listed : start.Listed) : s.Listed := by
  induction run with
  | nil => exact listed
  | cons past step ih => exact step.listed (past.sound sound) ih

/-- The bound on the steps of a run on one thread is large enough. -/
theorem Listed.effort_le (listed : s.Listed) : 2 * s.poller.effort + 2 ≤ s.poller.stepBound := by
  have known {a : Account} (among : a ∈ s.poller.accounts) :
      Plain.limit s.shared.defaults a ≤
        (s.poller.accounts.map (Plain.limit s.shared.defaults)).foldl max 0 :=
    (le_foldl_max _ 0).2 _ (List.mem_map.2 ⟨a, among, rfl⟩)
  have inside := listed.inside
  have selected {a : Account} (current : s.shared.cursor.current? = some a) :=
    known (listed.selected current)
  unfold Poller.effort stepBound
  simp only [Plain.effectivePolling_maxPollCount]
  dsimp only [shared] at known selected ⊢
  generalize (s.poller.accounts.map (Plain.limit s.poller.shared.defaults)).foldl max 0 = most
    at known selected ⊢
  have least : 80 * (most + 2) ≤ 40 * (most + 2) * (s.poller.leaving.length + 2) := by
    rw [show 80 * (most + 2) = 40 * (most + 2) * 2 by omega]
    exact Nat.mul_le_mul_left _ (Nat.le_add_left _ _)
  cases active : s.poller.active? with
  | none =>
    rw [Option.elim_none]
    omega
  | some w =>
    have toil := Worker.toil_le (w := w) fun c within => known (inside w c active within)
    have pledge := Worker.pledge_le (w := w) fun a current => selected current
    simp only [Option.elim_some, Worker.effort]
    omega

/-- The end of a run on one thread: no worker can go on, and it is done or its time is up. -/
structure Settles (m : Mailboxes ω φ) (done : Poller ω φ → Bool) (deadline : Nat)
    (s s' : System ω φ) : Prop where
  elapses : Elapses m s s'
  stuck : s'.poller.stepWorker m = none
  ended : done s'.poller = true ∨ deadline ≤ s'.shared.now

/-- From every state that can be reached a run on one thread comes to its end. -/
theorem run_settles (sound : s.Sound) (listed : s.Listed) (done : Poller ω φ → Bool)
    (deadline : Nat) : Settles m done deadline s (s.update (·.run m done deadline)) := by
  obtain ⟨stuck, ended⟩ := sound.runUntil_rests (m := m) done deadline _ (.inl listed.effort_le)
  have elapses := elapses_runUntil (m := m) done deadline s.poller.stepBound s
  simp only [update, run] at elapses ⊢
  exact ⟨elapses, stuck, ended⟩

end System

end MailRound.Poller
