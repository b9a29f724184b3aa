import Mathlib.Data.List.Induction
import MailRound.Proofs.Lifecycle.Quiescence
import MailRound.Proofs.Lifecycle.Restart
import MailRound.Proofs.Twins.Offset

namespace MailRound.Poller

variable {ω φ : Type}

/-- What a wait without a limit comes back to: the worker goes on when it can, else time passes to
the next moment at which it does, until the flag is down. -/
inductive Awaits (m : Mailboxes ω φ) : Poller ω φ → Poller ω φ → Prop
  | done {p} (down : p.shared.processing = false) : Awaits m p p
  | goes {p p' q} (busy : p.shared.processing = true) (goes : p.stepWorker m = some p')
    (rest : Awaits m p' q) : Awaits m p q
  | passes {p q} {t : Nat} (busy : p.shared.processing = true) (stuck : p.stepWorker m = none)
    (due : p.nextDue = some t) (rest : Awaits m (p.atTime (max t p.shared.now)) q) : Awaits m p q

/-- What a caller may see while it waits: time need not pass to the next moment at once. -/
inductive Sees (m : Mailboxes ω φ) (p : Poller ω φ) : Poller ω φ → Prop
  | here : Sees m p p
  | goes {r r'} (past : Sees m p r) (busy : r.shared.processing = true)
    (goes : r.stepWorker m = some r') : Sees m p r'
  | passes {r} (t : Nat) (past : Sees m p r) (busy : r.shared.processing = true)
    (stuck : r.stepWorker m = none) (later : r.shared.now ≤ t)
    (before : ∀ due, r.nextDue = some due → t ≤ max due r.shared.now) : Sees m p (r.atTime t)

def Retold (p p' : Poller ω φ) : Prop := ∃ log, p' = p.modify fun s => { s with log := log }

/-- What callers may have come to that wait one after the other, each cut off somewhere. -/
inductive Interrupted (m : Mailboxes ω φ) (p : Poller ω φ) : Poller ω φ → Prop
  | here : Interrupted m p p
  | again {r r' r''} (past : Interrupted m p r) (sees : Sees m r r') (told : r'.Retold r'') :
    Interrupted m p r''

section

variable {m : Mailboxes ω φ} {p p' q r : Poller ω φ}

theorem Sees.trans (first : Sees m p q) (second : Sees m q r) : Sees m p r := by
  induction second with
  | here => exact first
  | goes past busy goes ih => exact .goes ih busy goes
  | passes t past busy stuck later before ih => exact .passes t ih busy stuck later before

theorem awaits_of_stuck (busy : p.shared.processing = true) (stuck : p.stepWorker m = none) :
    Awaits m p q ↔ ∃ due, p.nextDue = some due ∧ Awaits m (p.atTime (max due p.shared.now)) q := by
  refine ⟨fun awaits => ?_, fun ⟨due, next, rest⟩ => .passes busy stuck next rest⟩
  cases awaits with
  | done down => cases down.symm.trans busy
  | goes _ goes => cases stuck.symm.trans goes
  | @passes _ _ due _ _ next rest => exact ⟨due, next, rest⟩

theorem Awaits.sees (awaits : Awaits m p q) : Sees m p q := by
  induction awaits with
  | done down => exact .here
  | goes busy goes rest ih => exact .trans (.goes .here busy goes) ih
  | passes busy stuck due rest ih =>
    refine .trans (.passes _ .here busy stuck (Nat.le_max_right _ _) fun due' next => ?_) ih
    obtain rfl := Option.some.inj (due.symm.trans next)
    exact Nat.le_refl _

theorem Awaits.down (awaits : Awaits m p q) : q.shared.processing = false := by
  induction awaits with
  | done down => exact down
  | goes busy goes rest ih => exact ih
  | passes busy stuck due rest ih => exact ih

theorem Retold.trans {p'' : Poller ω φ} (first : p.Retold p') (second : p'.Retold p'') :
    p.Retold p'' := by
  obtain ⟨log, rfl⟩ := first
  obtain ⟨log', rfl⟩ := second
  exact ⟨log', rfl⟩

def Offset.zero : Offset := ⟨0, 0, 0, 0, none, []⟩

theorem Worker.ahead_zero (w : Worker φ) : w.ahead .zero = w := by
  obtain ⟨serial, phase, signal, closed, stop⟩ := w
  cases phase <;>
    simp [Worker.ahead, Phase.ahead, Cycle.ahead, Flight.ahead, Offset.zero]

theorem leads_zero : p.Leads .zero p' ↔ p.Retold p' := by
  have same (log : List Log.Event) :
      p.ahead .zero log = p.modify fun s => { s with log := log } := by
    have self (ws : List (Worker φ)) : ws.map (·.ahead .zero) = ws :=
      (List.map_congr_left fun w _ => w.ahead_zero).trans (List.map_id' ws)
    have here : p.worker.map (·.ahead .zero) = p.worker := by
      cases p.worker <;> simp [Worker.ahead_zero]
    rw [Poller.ahead, self, here]
    simp [modify, Shared.ahead, Queue.ahead, Offset.zero]
  unfold Leads Retold
  simp only [same]

/-- Whoever waits sees the same with another log. -/
theorem Awaits.retold (awaits : Awaits m p q) (told : p.Retold p') :
    ∃ q', Awaits m p' q' ∧ q.Retold q' := by
  induction awaits generalizing p' with
  | done down =>
    obtain ⟨log, rfl⟩ := told
    exact ⟨_, .done down, log, rfl⟩
  | goes busy goes rest ih =>
    obtain ⟨r', goes', leads⟩ := stepWorker_of_leads (leads_zero.2 told) goes
    obtain ⟨q', awaits, told'⟩ := ih (leads_zero.1 leads)
    obtain ⟨log, rfl⟩ := told
    exact ⟨q', .goes busy goes' awaits, told'⟩
  | @passes p q t busy stuck due rest ih =>
    have stuck' := stuck_of_leads (leads_zero.2 told) stuck
    obtain ⟨log, rfl⟩ := told
    obtain ⟨q', awaits, told'⟩ := ih ⟨log, rfl⟩
    exact ⟨q', .passes busy stuck' due awaits, told'⟩

theorem Awaits.unique {q' : Poller ω φ} (awaits : Awaits m p q) (awaits' : Awaits m p q') :
    q' = q := by
  induction awaits with
  | done down =>
    cases awaits' with
    | done => rfl
    | goes busy => cases down.symm.trans busy
    | passes busy => cases down.symm.trans busy
  | goes busy goes rest ih =>
    cases awaits' with
    | done down => cases down.symm.trans busy
    | goes _ goes' rest' =>
      obtain rfl := Option.some.inj (goes.symm.trans goes')
      exact ih rest'
    | passes _ stuck => cases stuck.symm.trans goes
  | passes busy stuck due rest ih =>
    obtain ⟨t, due', rest'⟩ := (awaits_of_stuck busy stuck).1 awaits'
    obtain rfl := Option.some.inj (due.symm.trans due')
    exact ih rest'

end

theorem Worker.step_none_of_before {m : Mailboxes ω φ} {s : Shared ω} {w : Worker φ} {t : Nat}
    (still : w.step m s = none) (before : ∀ due, w.due? = some due → t < due) :
    w.step m { s with now := t } = none := by
  obtain ⟨serial, phase, signal, closed, stop⟩ := w
  have lands {α : Type} {f : Flight φ α} (go : φ → Outcome α → Step ω φ) (ahead : t < f.due) :
      land { s with now := t } ⟨serial, phase, signal, closed, stop⟩ f go = none :=
    if_neg (Nat.not_le_of_lt ahead)
  cases phase with
  | fresh => cases still
  | idle =>
    cases stop <;> cases signal <;> cases closed <;> first | rfl | cases still
  | connecting c f => exact lands _ (before _ rfl)
  | fetching c f => exact lands _ (before _ rfl)
  | marking c f e =>
    exact lands (fun fetcher result => afterMark m _ _ c fetcher e result) (before _ rfl)
  | disconnecting c f result =>
    exact lands (fun _ _ => afterAttempt _ _ c result) (before _ rfl)
  | pausing c due =>
    have wanted : ¬(stop = true ∨ s.cycle ≠ c.generation) := fun why => by
      simp only [step, if_pos why] at still
      cases still
    simp only [step]
    rw [if_neg wanted, if_neg (Nat.not_le_of_lt (before _ rfl))]
  | exited => rfl
  | panicked message => rfl

/-- A worker that takes the flag down has nothing more to do. -/
theorem Worker.Turn.rests_of_lowered {m : Mailboxes ω φ} {s : Shared ω} {w : Worker φ}
    {made : List Call} {put : List Message} {r : Worker.Step ω φ} (turn : Turn s w made put r)
    (fits : w.Fits s) (up : s.processing = true) (down : r.1.processing = false) :
    r.2.step m r.1 = none := by
  have idle {v : Worker φ} (running : v.stop = false) (accepting : v.closed = false)
      (silent : v.signal = false) (self : r.2 = { v with phase := .idle }) :
      r.2.step m r.1 = none := by
    simp [self, step, running, accepting, silent]
  have goes {v : Worker φ} {c : Cycle} (running : v.stop = false) (accepting : v.closed = false)
      (goes : Goes s v c r) : r.2.step m r.1 = none := by
    cases goes with
    | rests self flag =>
      refine idle running accepting ?_ self
      cases signal : v.signal with
      | false => rfl
      | true =>
        rw [signal] at flag
        cases (flag.trans up).symm.trans down
    | goesOn phase c' self inside account generation flag => cases (flag.trans up).symm.trans down
  cases turn with
  | wakes fresh self flag quiet empty => cases (flag.trans up).symm.trans down
  | exits rest why self flag quiet empty => cases (flag.trans up).symm.trans down
  | skips rest go signal unselected self flag quiet empty =>
    exact idle (v := { w with signal := false }) fits.running fits.accepting rfl self
  | begins account selected h calls empty =>
    exact goes (v := { w with signal := false }) fits.running fits.accepting h
  | lands c batch fetched h taken => exact goes fits.running fits.accepting h
  | goesOn c inside other h calls unmarked empty => exact goes fits.running fits.accepting h
  | dies c inside other message self flag quiet empty => cases (flag.trans up).symm.trans down

namespace System

variable {m : Mailboxes ω φ} {s : System ω φ} {h : History ω φ} {p q r : Poller ω φ}

theorem Sound.stuck_before {t : Nat} (sound : s.Sound) (stuck : s.poller.stepWorker m = none)
    (before : ∀ due, s.poller.nextDue = some due → t < due) :
    (s.poller.atTime t).stepWorker m = none := by
  have later : (s.update (·.atTime t)).Sound := sound.frame rfl rfl rfl rfl rfl rfl
  refine later.stuck.2 fun w active => ?_
  refine Worker.step_none_of_before (sound.stuck.1 stuck w active) fun due waits => before due ?_
  rw [sound.nextDue, show s.poller.active? = some w from active]
  exact waits

theorem Sound.stuck_of_lowered (sound : s.Sound) (goes : s.poller.stepWorker m = some p)
    (up : s.shared.processing = true) (down : p.shared.processing = false) :
    p.stepWorker m = none := by
  obtain ⟨w, r, made, put, turned⟩ := sound.turned goes
  obtain ⟨active, now, same⟩ := turned.worked.active
  have here : s.poller.worker = some w := by
    obtain ⟨here, -⟩ | ⟨absent, -⟩ := sound.active active
    · exact here
    · cases (sound.unattended absent).symm.trans up
  refine (sound.work goes).stuck.2 fun v there => ?_
  obtain rfl := Option.some.inj (now.symm.trans there)
  have rests := turned.turn.rests_of_lowered (m := m) (sound.installed w here) up (same ▸ down)
  rwa [← same] at rests

theorem elapses_of_sees (sees : Sees m p r) (stopping : Option (Nat × Nat)) :
    Elapses m (⟨p, stopping⟩ : System ω φ) ⟨r, stopping⟩ := by
  induction sees with
  | here => exact .refl _
  | @goes r r' past busy goes ih => exact ih.trans (.step (.work goes) rfl)
  | @passes r t past busy stuck later before ih =>
    exact ih.trans (.step (Step.atTime ⟨r, stopping⟩ later) rfl)

theorem Sound.sees (sound : s.Sound) (sees : Sees m s.poller r) :
    Sound { s with poller := r } := by
  obtain ⟨past, run, -⟩ := elapses_of_sees sees s.stopping
  exact run.sound sound

/-- Whatever a caller has seen, a wait without a limit comes back to the same as before. -/
theorem Sound.awaits_iff (sound : s.Sound) (sees : Sees m s.poller r) :
    Awaits m s.poller q ↔ Awaits m r q := by
  induction sees with
  | here => exact Iff.rfl
  | @goes r r' past busy goes ih =>
    refine ih.trans ⟨fun awaits => ?_, .goes busy goes⟩
    cases awaits with
    | done down => cases down.symm.trans busy
    | goes _ goes' rest =>
      obtain rfl := Option.some.inj (goes.symm.trans goes')
      exact rest
    | passes _ stuck => cases stuck.symm.trans goes
  | @passes r t past busy stuck later before ih =>
    refine ih.trans ?_
    have sound' := sound.sees past
    by_cases come : ∃ due, r.nextDue = some due ∧ due ≤ t
    -- Time has passed to the next moment.
    · obtain ⟨due, next, come⟩ := come
      have moment : max due r.shared.now = t := by
        have latest := before due next
        omega
      rw [awaits_of_stuck busy stuck]
      refine ⟨fun ⟨due', next', rest⟩ => ?_, fun rest => ⟨due, next, moment.symm ▸ rest⟩⟩
      obtain rfl := Option.some.inj (next.symm.trans next')
      rwa [moment] at rest
    -- The worker still waits for the same moment.
    · have ahead : ∀ due, r.nextDue = some due → t < due := fun due next =>
        Nat.lt_of_not_le fun le => come ⟨due, next, le⟩
      have stuck' : (r.atTime t).stepWorker m = none := sound'.stuck_before stuck ahead
      rw [awaits_of_stuck busy stuck, awaits_of_stuck (p := r.atTime t) busy stuck']
      refine exists_congr fun due => and_congr_right fun next => ?_
      have moment : max due (r.atTime t).shared.now = max due r.shared.now := by
        have now : (r.atTime t).shared.now = t := rfl
        have less := ahead due next
        omega
      rw [moment]
      rfl

theorem le_max_jump (deadline : Nat) (p : Poller ω φ) :
    p.shared.now ≤ jump deadline p ∧
      ∀ due, p.nextDue = some due → jump deadline p ≤ max due p.shared.now := by
  refine ⟨Nat.le_max_right _ _, fun due next => ?_⟩
  rw [jump, next, Option.elim_some]
  omega

/-- A run on one thread up to a deadline sees a part of the wait without a limit. -/
theorem Sound.sees_runUntil (sound : s.Sound) (deadline fuel : Nat)
    (waits : s.shared.processing = true ∨ s.poller.stepWorker m = none) :
    Sees m s.poller (runUntil m (fun p => !p.shared.processing) deadline fuel s.poller) := by
  induction fuel generalizing s with
  | zero => exact .here
  | succ fuel ih =>
    cases goes : s.poller.stepWorker m with
    | some p =>
      have busy : s.shared.processing = true := waits.resolve_right (by simp [goes])
      rw [runUntil_of_step goes]
      refine .trans (.goes .here busy goes) (ih (sound.work goes) ?_)
      cases up : p.shared.processing with
      | true => exact .inl rfl
      | false => exact .inr (sound.stuck_of_lowered goes busy up)
    | none =>
      by_cases ended : (!s.poller.shared.processing) = true ∨ deadline ≤ s.poller.shared.now
      · rw [runUntil_of_ended goes ended]
        exact .here
      · have busy : s.shared.processing = true := by
          cases up : s.shared.processing with
          | true => rfl
          | false => exact absurd (.inl (congrArg not up)) ended
        obtain ⟨later, before⟩ := le_max_jump deadline s.poller
        rw [runUntil_of_waits goes ended]
        refine .trans (.passes _ .here busy goes later before)
          (ih (s := s.update (·.atTime (jump deadline s.poller))) ?_ (.inl busy))
        exact sound.frame rfl rfl rfl rfl rfl rfl

theorem Sound.later (sound : s.Sound) (sees : Sees m s.poller r) :
    s.shared.now ≤ r.shared.now := by
  induction sees with
  | here => exact Nat.le_refl _
  | @goes r r' past busy goes ih =>
    obtain ⟨w, step, made, put, turned⟩ := (sound.sees past).turned goes
    exact Nat.le_trans ih (Nat.le_of_eq turned.effect.stays.now.symm)
  | passes t past busy stuck later before ih => exact Nat.le_trans ih later

theorem Sound.later_of_stuck (sound : s.Sound) (stuck : s.poller.stepWorker m = none)
    (busy : s.shared.processing = true) (awaits : Awaits m s.poller q) :
    s.shared.now < q.shared.now := by
  obtain ⟨due, next, rest⟩ := (awaits_of_stuck busy stuck).1 awaits
  have waits : s.shared.now < due := by
    refine Nat.lt_of_not_le fun come => ?_
    obtain ⟨w, active, due'⟩ := Option.bind_eq_some_iff.1 (sound.nextDue.symm.trans next)
    simpa [stuck] using sound.goes_of_due (m := m) active due' come
  have later : (s.update (·.atTime (max due s.shared.now))).Sound :=
    sound.frame rfl rfl rfl rfl rfl rfl
  exact Nat.lt_of_lt_of_le (Nat.lt_of_lt_of_le waits (Nat.le_max_left _ _)) (later.later rest.sees)

/-- Up to a deadline a run on one thread comes to the same as the wait without a limit, if that is
not later. -/
theorem Sound.run_awaited (sound : s.Sound) (listed : s.Listed) (busy : s.shared.processing = true)
    (awaits : Awaits m s.poller q) {deadline : Nat} (before : s.shared.now ≤ deadline) :
    if q.shared.now ≤ deadline then s.poller.run m (fun p => !p.shared.processing) deadline = q
    else (s.poller.run m (fun p => !p.shared.processing) deadline).shared.processing = true := by
  have sees := sound.sees_runUntil (m := m) deadline s.poller.stepBound (.inl busy)
  have inTime := sound.now_runUntil_le (m := m) (fun p => !p.shared.processing) deadline
    s.poller.stepBound before
  obtain ⟨-, stuck, ended⟩ := run_settles (m := m) sound listed (fun p => !p.shared.processing)
    deadline
  change Sees m s.poller (s.poller.run m (fun p => !p.shared.processing) deadline) at sees
  change (s.poller.run m (fun p => !p.shared.processing) deadline).shared.now ≤ deadline at inTime
  dsimp only [update] at stuck ended
  generalize s.poller.run m (fun p => !p.shared.processing) deadline = r at *
  have rest := (sound.awaits_iff sees).1 awaits
  cases up : r.shared.processing with
  | false =>
    obtain rfl := rest.unique (.done up)
    rw [if_pos inTime]
  | true =>
    have late : deadline ≤ r.shared.now := ended.resolve_left (by simp [up])
    have later := (sound.sees sees).later_of_stuck stuck up rest
    rw [if_neg (Nat.not_le_of_lt (Nat.lt_of_le_of_lt late later))]

theorem wait_of_busy {limit : Nat} (busy : p.shared.processing = true) : p.wait m limit =
    let r := p.run m (fun p => !p.shared.processing) (p.shared.now + limit)
    if r.shared.processing then
      (false, r.note .info ("wait time exceeded " ++ spanText limit ++ ", stopping wait"))
    else (true, r) := by
  unfold wait
  rw [busy]
  rfl

theorem Sound.wait_awaited (sound : s.Sound) (listed : s.Listed) (awaits : Awaits m s.poller q)
    (limit : Nat) : if q.shared.now ≤ s.shared.now + limit then s.poller.wait m limit = (true, q)
      else (s.poller.wait m limit).1 = false := by
  cases busy : s.shared.processing with
  | false =>
    obtain rfl := awaits.unique (.done busy)
    rw [if_pos (Nat.le_add_right _ _), wait, busy]
    rfl
  | true =>
    have ran := sound.run_awaited listed busy awaits (Nat.le_add_right s.shared.now limit)
    rw [wait_of_busy busy]
    split at ran
    · rename_i inTime
      simp [inTime, ran, awaits.down]
    · rename_i late
      simp [late, ran]

theorem Sound.waitForever_awaited (sound : s.Sound) (listed : s.Listed)
    (awaits : Awaits m s.poller q) :
    if q.shared.now ≤ s.shared.now + patience then s.poller.waitForever m = (true, q)
      else (s.poller.waitForever m).1 = false := by
  cases busy : s.shared.processing with
  | false =>
    obtain rfl := awaits.unique (.done busy)
    rw [if_pos (Nat.le_add_right _ _), waitForever, busy]
    rfl
  | true =>
    have ran := sound.run_awaited listed busy awaits (Nat.le_add_right s.shared.now patience)
    unfold waitForever
    rw [busy]
    split at ran
    · rename_i inTime
      simp [inTime, ran, awaits.down]
    · rename_i late
      simp [late, ran]

/-- However short a wait is, its caller has seen a part of the wait without a limit. -/
theorem Sound.interrupts_wait (sound : s.Sound) (limit : Nat) :
    ∃ r, Sees m s.poller r ∧ r.Retold (s.poller.wait m limit).2 := by
  cases busy : s.shared.processing with
  | false =>
    refine ⟨_, .here, s.shared.log, ?_⟩
    rw [wait, busy]
    rfl
  | true =>
    have sees := sound.sees_runUntil (m := m) (s.shared.now + limit) s.poller.stepBound (.inl busy)
    refine ⟨_, sees, ?_⟩
    rw [wait_of_busy busy]
    change Poller.Retold (s.poller.run m _ _) _
    dsimp only
    generalize s.poller.run m _ _ = r
    cases r.shared.processing with
    | true => exact ⟨_, rfl⟩
    | false => exact ⟨_, rfl⟩

theorem Sound.retold (sound : s.Sound) (told : s.poller.Retold r) : Sound { s with poller := r } := by
  obtain ⟨log, rfl⟩ := told
  exact sound.frame rfl rfl rfl rfl rfl rfl

theorem Sound.interrupted (sound : s.Sound) (cut : Interrupted m s.poller r) :
    Sound { s with poller := r } ∧
      ∀ q, Awaits m s.poller q → ∃ q', Awaits m r q' ∧ q.Retold q' := by
  induction cut with
  | here => exact ⟨sound, fun q awaits => ⟨q, awaits, q.shared.log, rfl⟩⟩
  | @again r r' r'' past sees told ih =>
    obtain ⟨sound', same⟩ := ih
    refine ⟨(sound'.sees sees).retold told, fun q awaits => ?_⟩
    obtain ⟨q', awaits', told'⟩ := same q awaits
    obtain ⟨q'', awaits'', told''⟩ := ((sound'.awaits_iff sees).1 awaits').retold told
    exact ⟨q'', awaits'', told'.trans told''⟩

/-- Waits in turn cut the wait without a limit somewhere. -/
theorem Sound.interrupted_waits (sound : s.Sound) (limits : List Nat) :
    Interrupted m s.poller (limits.foldl (fun p limit => (p.wait m limit).2) s.poller) := by
  induction limits using List.reverseRecOn with
  | nil => exact .here
  | append_singleton limits limit ih =>
    rw [List.foldl_append]
    obtain ⟨sound', -⟩ := sound.interrupted ih
    obtain ⟨r, sees, told⟩ := sound'.interrupts_wait limit
    exact .again ih sees told

theorem Run.not_stranded {roster : Roster} {defaults : Polling} {world : ω}
    {clock : Calendar.Instant} (run : Run m (.new roster defaults world clock) h s)
    (calm : ∀ t ∈ h, ¬t.Panics) : h.stranded = false := by
  induction run with
  | nil => rfl
  | @cons h s move s' past step ih =>
    obtain ⟨-, before⟩ := List.forall_mem_cons.1 calm
    obtain ⟨alive, -⟩ := past.staged (sound_new roster defaults world clock)
      (by simp [System.Alive, System.new, Poller.new]) before
    have harmless : Transition.strands ⟨move, s, s'⟩ = false := by
      unfold Transition.strands
      dsimp only
      split
      · cases here : s.poller.worker with
        | none => rfl
        | some w => simp [alive w here]
      · rfl
    simp [stranded_cons, harmless, ih before]

/-- Where no call takes a worker down, a wait without a limit comes back. -/
theorem Run.awaits {roster : Roster} {defaults : Polling} {world : ω} {clock : Calendar.Instant}
    (run : Run m (.new roster defaults world clock) h s) (calm : ∀ t ∈ h, ¬t.Panics)
    (answered : s.Answered m) : ∃ q, Awaits m s.poller q := by
  have sound := run.sound (sound_new roster defaults world clock)
  cases busy : s.shared.processing with
  | false => exact ⟨_, .done busy⟩
  | true =>
    obtain ⟨alive, -⟩ := run.staged (sound_new roster defaults world clock)
      (by simp [System.Alive, System.new, Poller.new]) calm
    obtain ⟨w, here⟩ : ∃ w, s.poller.worker = some w := by
      refine Option.ne_none_iff_exists'.1 fun absent => ?_
      cases (sound.unattended absent).symm.trans busy
    obtain ⟨latest, down⟩ :=
      run.completes answered (run.not_stranded calm) ⟨w, here, alive w here⟩
    have ended := down latest _ (Nat.le_refl _) (Nat.le_refl _)
    exact ⟨_, (sound.awaits_iff (sound.sees_runUntil latest _ (.inl busy))).2 (.done ended)⟩

end System

/-- Where no call takes a worker down, a wait without a limit comes back to a poller `q`. Waits with
any limits before it, wherever they are cut off, make no difference to that but in the log. A wait
with a limit comes back to `q` exactly if that is not later than its limit. -/
theorem timeouts_are_transparent {m : Mailboxes ω φ} {roster : Roster} {defaults : Polling}
    {world : ω} {clock : Calendar.Instant} {h : History ω φ} {s : System ω φ}
    (run : System.Run m (System.new roster defaults world clock) h s)
    (calm : ∀ t ∈ h, ¬t.Panics) (answered : s.Answered m) :
    ∃ q, Awaits m s.poller q ∧
      (∀ limits : List Nat, ∃ q', q.Retold q' ∧
        Awaits m (limits.foldl (fun p limit => (p.wait m limit).2) s.poller) q') ∧
      (∀ r, Interrupted m s.poller r → ∃ q', q.Retold q' ∧ Awaits m r q') ∧
      (∀ limit, if q.shared.now ≤ s.shared.now + limit then s.poller.wait m limit = (true, q)
        else (s.poller.wait m limit).1 = false) ∧
      (∀ limit r, s.poller.wait m limit = (true, r) → r = q ∧
        ∀ longer, limit ≤ longer → s.poller.wait m longer = (true, q)) ∧
      if q.shared.now ≤ s.shared.now + patience then s.poller.waitForever m = (true, q)
      else (s.poller.waitForever m).1 = false := by
  have sound := run.sound (System.sound_new roster defaults world clock)
  have listed := run.listed (System.sound_new roster defaults world clock)
    (System.listed_new roster defaults world clock)
  obtain ⟨q, awaits⟩ := run.awaits calm answered
  have cut (r : Poller ω φ) (interrupted : Interrupted m s.poller r) :
      ∃ q', q.Retold q' ∧ Awaits m r q' := by
    obtain ⟨q', rest, told⟩ := (sound.interrupted interrupted).2 q awaits
    exact ⟨q', told, rest⟩
  have waits := sound.wait_awaited listed awaits
  refine ⟨q, awaits, fun limits => cut _ (sound.interrupted_waits limits), cut, waits,
    fun limit r returned => ?_, sound.waitForever_awaited listed awaits⟩
  have inTime := waits limit
  by_cases before : q.shared.now ≤ s.shared.now + limit
  · rw [if_pos before] at inTime
    obtain rfl := congrArg Prod.snd (returned.symm.trans inTime)
    refine ⟨rfl, fun longer more => ?_⟩
    have later := waits longer
    rwa [if_pos (Nat.le_trans before (Nat.add_le_add_left more _))] at later
  · rw [if_neg before, returned] at inTime
    cases inTime

/-- The only fetch takes twenty seconds. A wait of so long sees its end, also after shorter ones. -/
theorem timeouts_are_transparent_slow :
    ∃ (h : History Script.Scripts Script.Step) (s : System Script.Scripts Script.Step)
      (q : Poller Script.Scripts Script.Step),
      System.Run Script.mailboxes .slow h s ∧ (∀ t ∈ h, ¬t.Panics) ∧
        s.Answered Script.mailboxes ∧ Awaits Script.mailboxes s.poller q ∧
        q.shared.queue.messages = [plainMessage "1"] ∧
        (s.poller.wait Script.mailboxes 19999).1 = false ∧
        s.poller.wait Script.mailboxes 20000 = (true, q) ∧
        ∃ q', q.Retold q' ∧ Awaits Script.mailboxes
          ([0, 700, 19300, 5].foldl (fun p limit => (p.wait Script.mailboxes limit).2) s.poller)
          q' := by
  have run : System.Run Script.mailboxes .slow [] .slow := .nil
  have run := run.cons (.start true rfl)
  have calm : ∀ t ∈ [(⟨.start true, .slow, System.slow.update (·.start true)⟩ :
      Transition Script.Scripts Script.Step)], ¬t.Panics := by simp [Transition.Panics]
  have answered : (System.slow.update (·.start true)).Answered Script.mailboxes := by
    refine System.answered_of_calm (run.sound (System.sound_new ..)) (by decide +kernel) ?_
    intro w here
    obtain rfl := Option.some.inj here
    trivial
  obtain ⟨q, awaits, cut, -, -, returned, -⟩ := timeouts_are_transparent run calm answered
  have back : ((System.slow.update (·.start true)).poller.wait Script.mailboxes 20000).1 = true := by
    decide +kernel
  obtain ⟨same, longer⟩ := returned 20000 _ (Prod.ext back rfl)
  refine ⟨_, _, q, run, calm, answered, awaits, ?_, by decide +kernel,
    longer 20000 (Nat.le_refl _), cut _⟩
  rw [← same]
  decide +kernel

end MailRound.Poller
