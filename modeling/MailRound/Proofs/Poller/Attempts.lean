import MailRound.Proofs.Poller.Stint
import MailRound.Proofs.Poller.Trace

namespace MailRound.Poller

variable {ω φ : Type}

def Worker.isCalling (w : Worker φ) : Bool :=
  match w.phase with
  | .connecting _ _ => true
  | .fetching _ _ => true
  | .marking _ _ _ => true
  | .disconnecting _ _ _ => true
  | _ => false

/-- What a transition shows of the calls to mailboxes. -/
def Transition.events (m : Mailboxes ω φ) (t : Transition ω φ) : List Event :=
  match t.move with
  | .work => (t.before.poller.active?.bind (·.hears? t.before.shared)).toList ++
    t.calls.map (Event.ofCall m t.before.shared.world)
  | .stopEnds => if t.before.poller.active?.any (·.isCalling) then [.abandoned] else []
  | _ => []

/-- The stints of a run, the newest first: each begins with a cycle and lasts until the next. -/
def History.stints (m : Mailboxes ω φ) : History ω φ → List Stint
  | [] => []
  | t :: h =>
    match t.begins? with
    | some a => ⟨a, t.events m, false⟩ :: stints m h
    | none => (stints m h).modifyHead (·.extend (t.events m) t.interrupts)

theorem stints_of_begins {m : Mailboxes ω φ} {t : Transition ω φ} {a : Account}
    (begins : t.begins? = some a) (h : History ω φ) :
    History.stints m (t :: h) = (Stint.mk a [] false).extend (t.events m) false :: h.stints m := by
  simp [History.stints, begins, Stint.extend]

theorem stints_of_goesOn {m : Mailboxes ω φ} {t : Transition ω φ} (none : t.begins? = none)
    (h : History ω φ) : History.stints m (t :: h) =
      (h.stints m).modifyHead (·.extend (t.events m) t.interrupts) := by
  simp [History.stints, none]

theorem modifyHead_extend_over {defaults : Polling} {xs : List Stint} (disturbed : Bool)
    (finished : ∀ x ∈ xs, x.Over defaults) :
    ∀ x ∈ xs.modifyHead (·.extend [] disturbed), x.Over defaults := by
  cases xs with
  | nil => simp
  | cons x rest =>
    obtain ⟨first, others⟩ := List.forall_mem_cons.1 finished
    exact List.forall_mem_cons.2 ⟨first.stays disturbed, others⟩

theorem modifyHead_extend_calls (xs : List Stint) (events : List Event) (disturbed : Bool)
    (heard : xs = [] → events.filterMap Event.call? = []) :
    (xs.modifyHead (·.extend events disturbed)).reverse.flatMap Stint.calls =
      xs.reverse.flatMap Stint.calls ++ events.filterMap Event.call? := by
  cases xs with
  | nil => simp [heard rfl]
  | cons x rest => simp

namespace System

variable {m : Mailboxes ω φ} {s s' : System ω φ} {h : History ω φ} {w : Worker φ} {c : Cycle}
  {p : Poller ω φ}

/-- Only the end of a stop takes a worker away that is in a cycle. -/
theorem Step.remains {move : Move} (sound : s.Sound) (step : Step m s move s')
    (other : move ≠ .work) (lasting : move ≠ .stopEnds) (active : s.poller.active? = some w)
    (inside : w.cycle? = some c) : ∃ v, s'.poller.active? = some v ∧ v.phase = w.phase := by
  have selection {result : Bool × Poller ω φ} (h : Selection s.poller result) :
      ∃ v, result.2.active? = some v ∧ v.phase = w.phase := by
    cases h with
    | exhausted log past => exact ⟨w, active, rfl⟩
    | deferred log chosen absent => exact ⟨w, active, rfl⟩
    | signalled log chosen v here =>
      obtain rfl := Option.some.inj ((active?_of_worker here).symm.trans active)
      exact ⟨_, rfl, rfl⟩
  cases step with
  | start auto free =>
    -- A start that finds a worker in a cycle leaves it alone.
    have live : s.poller.hasLiveWorker = true := by
      obtain ⟨here, -⟩ | ⟨absent, -⟩ := sound.active active
      · have busy : w.finished = false := by
          cases phase : w.phase <;> simp_all [Worker.finished, Worker.cycle?]
        simp [hasLiveWorker, here, busy]
      · simp [active?, absent, sound.free free] at active
    have starting := start_starting s.poller auto
    simp only [update]
    generalize s.poller.start auto = p at starting
    cases starting with
    | running log _ => exact ⟨w, active, rfl⟩
    | resumed log dead pending selected => simp [live] at dead
    | waiting log dead nothing => simp [live] at dead
    | selecting dead => simp [live] at dead
  | next free =>
    exact selection sound.selection
  | reset free =>
    cases here : s.poller.worker with
    | none =>
      exact ⟨w, by simpa [active?, here, update, Poller.reset, modify, note] using active, rfl⟩
    | some v =>
      obtain rfl := Option.some.inj ((active?_of_worker here).symm.trans active)
      exact ⟨{ v with signal := false },
        by simp [active?, here, update, Poller.reset, modify, note], rfl⟩
  | @stop v free found =>
    obtain rfl := Option.some.inj ((active?_of_worker found).symm.trans active)
    refine ⟨{ v with stop := true, closed := true }, ?_, rfl⟩
    simp [stop_eq found, active?]
  | stopEnds waits ended => exact absurd rfl lasting
  | work goes => exact absurd rfl other
  | _ => exact ⟨w, active, rfl⟩

/-- The calls of a history, by stints. -/
structure Kept (m : Mailboxes ω φ) (h : History ω φ) (s : System ω φ) : Prop where
  calls : s.shared.calls = (h.stints m).reverse.flatMap Stint.calls
  begun : (h.stints m).reverse.map (·.account) = h.begun
  idle : (∀ w, s.poller.active? = some w → w.cycle? = none) →
    ∀ x ∈ h.stints m, x.Over s.shared.defaults
  inside : ∀ w c, s.poller.active? = some w → w.cycle? = some c →
    ∃ x rest, h.stints m = x :: rest ∧
      x.Follows s.shared.defaults s.shared.cycle w.phase c ∧ ∀ y ∈ rest, y.Over s.shared.defaults

theorem kept_of_after {t : Transition ω φ} {x : Stint} {rest : List Stint}
    (calls : t.after.shared.calls = (History.stints m (t :: h)).reverse.flatMap Stint.calls)
    (begun : (History.stints m (t :: h)).reverse.map (·.account) = History.begun (t :: h))
    (stints : History.stints m (t :: h) = x :: rest)
    (active : t.after.poller.active? = some w)
    (after : x.After t.after.shared.defaults t.after.shared.cycle w.phase)
    (finished : ∀ y ∈ rest, y.Over t.after.shared.defaults) : Kept m (t :: h) t.after := by
  refine ⟨calls, begun, ?_, ?_⟩
  · intro none
    obtain ⟨c, within, -⟩ | ⟨-, ended⟩ := after
    · rw [← Worker.cycle?_eq, none w active] at within
      cases within
    · rw [stints]
      exact List.forall_mem_cons.2 ⟨ended, finished⟩
  · intro v c here within
    obtain rfl := Option.some.inj (active.symm.trans here)
    obtain ⟨d, inside, follows⟩ | ⟨outside, -⟩ := after
    · obtain rfl := Option.some.inj (inside.symm.trans within)
      exact ⟨x, rest, stints, follows, finished⟩
    · rw [Worker.cycle?_eq, outside] at within
      cases within

structure Treads (m : Mailboxes ω φ) (s : System ω φ) (w : Worker φ) (p : Poller ω φ)
    (made : List Call) (after : Worker φ) : Prop where
  active : s.poller.active? = some w
  there : p.active? = some after
  stays : s.shared.Stays p.shared
  calls : p.shared.calls = s.shared.calls ++ made
  leg : ∃ put, w.Leg m s.shared made put after.phase

namespace Treads

variable {made : List Call} {after : Worker φ}

theorem events (treads : Treads m s w p made after) :
    Transition.events m ⟨.work, s, { s with poller := p }⟩ = Stint.shown m s.shared w made := by
  have calls : Transition.calls ⟨.work, s, { s with poller := p }⟩ = made := by
    simp [Transition.calls, System.shared, treads.calls]
  simp [Transition.events, treads.active, Stint.shown, ← calls]

theorem begins? (treads : Treads m s w p made after) :
    Transition.begins? ⟨.work, s, { s with poller := p }⟩ = w.begins? s.shared := by
  simp [Transition.begins?, treads.active]

end Treads

theorem Kept.begun_cons (kept : Kept m h s) (t : Transition ω φ) :
    (History.stints m (t :: h)).reverse.map (·.account) = History.begun (t :: h) := by
  rw [Poller.begun_cons, ← kept.begun]
  cases selected : t.begins? with
  | some a => simp [stints_of_begins selected, Stint.extend]
  | none =>
    rw [stints_of_goesOn selected]
    cases h.stints m <;> simp [Stint.extend]

section Work

variable {made : List Call} {after : Worker φ}

theorem Kept.calls_cons (kept : Kept m h s) (treads : Treads m s w p made after)
    (unheard : h.stints m = [] → w.begins? s.shared = none → made = []) :
    p.shared.calls = (History.stints m (⟨.work, s, { s with poller := p }⟩ :: h)).reverse.flatMap
      Stint.calls := by
  rw [treads.calls, kept.calls]
  cases selected : w.begins? s.shared with
  | some a =>
    have new : (Stint.mk a [] false).calls = [] := rfl
    simp [stints_of_begins (treads.begins?.trans selected), treads.events, Stint.shown_calls, new]
  | none =>
    rw [stints_of_goesOn (treads.begins?.trans selected), modifyHead_extend_calls, treads.events,
      Stint.shown_calls]
    intro first
    rw [treads.events, Stint.shown_calls, unheard first selected]

theorem Kept.work_begins {a : Account} (kept : Kept m h s) (treads : Treads m s w p made after)
    (begins : w.begins? s.shared = some a) :
    Kept m (⟨.work, s, { s with poller := p }⟩ :: h) { s with poller := p } := by
  obtain ⟨idle, go, -⟩ := Worker.begins?_eq_some.1 begins
  obtain ⟨put, leg⟩ := treads.leg
  have outside : ∀ v, s.poller.active? = some v → v.cycle? = none := by
    intro v here
    obtain rfl := Option.some.inj (treads.active.symm.trans here)
    simp [Worker.cycle?, idle]
  have shown : Stint.shown m s.shared w made = made.map (Event.ofCall m s.shared.world) := by
    simp [Stint.shown, Worker.hears?, idle]
  have empty : (Stint.mk a [] false).Made s.shared.defaults [] [] := ⟨rfl, by simp, by simp⟩
  have goesOn := empty.tries (c := ⟨a, s.shared.cycle, 0⟩) rfl rfl (Nat.zero_le _) (fun _ => rfl)
    (fun _ => go) (leg.tries begins)
  refine kept_of_after (kept.calls_cons treads ?_) (kept.begun_cons _)
    (stints_of_begins (treads.begins?.trans begins) h) treads.there ?_ ?_
  · intro _ none
    simp [begins] at none
  · rw [treads.events, shown]
    exact treads.stays.defaults ▸ treads.stays.cycle ▸ goesOn
  · exact treads.stays.defaults ▸ kept.idle outside

theorem Kept.work_inside (sound : s.Sound) (kept : Kept m h s)
    (treads : Treads m s w p made after) (inside : w.cycle? = some c) :
    Kept m (⟨.work, s, { s with poller := p }⟩ :: h) { s with poller := p } := by
  obtain ⟨put, leg⟩ := treads.leg
  obtain ⟨x, rest, old, follows, finished⟩ := kept.inside w c treads.active inside
  have going : x.disturbed = false → w.stop = false := by
    intro calm
    obtain ⟨-, fits⟩ | ⟨-, leaves⟩ := sound.active treads.active
    · exact fits.running
    -- A stop takes the worker and makes its cycle old, both at once.
    · exact absurd (follows.calm calm) (Nat.ne_of_lt (leaves.behind c inside))
  have stints := stints_of_goesOn (m := m)
    (treads.begins?.trans (Worker.begins?_of_cycle? inside)) h
  rw [old] at stints
  refine kept_of_after (kept.calls_cons treads ?_) (kept.begun_cons _) stints treads.there ?_
    (treads.stays.defaults ▸ finished)
  · intro none
    simp [old] at none
  · rw [treads.events]
    exact treads.stays.defaults ▸ treads.stays.cycle ▸ follows.leg inside going leg

theorem Kept.work_outside (kept : Kept m h s) (treads : Treads m s w p made after)
    (unbegun : w.begins? s.shared = none) (outside : w.cycle? = none) :
    Kept m (⟨.work, s, { s with poller := p }⟩ :: h) { s with poller := p } := by
  obtain ⟨put, leg⟩ := treads.leg
  obtain ⟨rfl, unheard, still⟩ := leg.quiet unbegun outside
  have shown : Transition.events m ⟨.work, s, { s with poller := p }⟩ = [] := by
    rw [treads.events, Stint.shown, unheard]
    rfl
  refine ⟨kept.calls_cons treads fun _ _ => rfl, kept.begun_cons _, fun _ => ?_, ?_⟩
  · rw [stints_of_goesOn (treads.begins?.trans unbegun), shown]
    refine modifyHead_extend_over _ (treads.stays.defaults ▸ kept.idle fun v here => ?_)
    obtain rfl := Option.some.inj (treads.active.symm.trans here)
    exact outside
  · intro v c here within
    obtain rfl := Option.some.inj (treads.there.symm.trans here)
    rw [Worker.cycle?_eq, still] at within
    cases within

theorem Kept.work (sound : s.Sound) (kept : Kept m h s) (goes : s.poller.stepWorker m = some p) :
    Kept m (⟨.work, s, { s with poller := p }⟩ :: h) { s with poller := p } := by
  obtain ⟨w, r, step, worked⟩ := sound.worked goes
  obtain ⟨active, there, shared⟩ := worked.active
  obtain ⟨made, put, effect, leg⟩ := Worker.step_leg step
  rw [← shared] at effect
  have treads : Treads m s w p made r.2 := ⟨active, there, effect.stays, effect.calls, put, leg⟩
  cases begins : w.begins? s.shared with
  | some a => exact kept.work_begins treads begins
  | none =>
    cases inside : w.cycle? with
    | some c => exact kept.work_inside sound treads inside
    | none => exact kept.work_outside treads begins inside

end Work

/-- Moves of the caller and of time make no calls and begin no cycle. -/
theorem Kept.beside {t : Transition ω φ} (kept : Kept m h t.before) (other : t.move ≠ .work)
    (same : t.after.shared.calls = t.before.shared.calls)
    (silent : (t.events m).filterMap Event.call? = [])
    (idle : (∀ w, t.after.poller.active? = some w → w.cycle? = none) →
      ∀ x ∈ (h.stints m).modifyHead (·.extend (t.events m) t.interrupts),
        x.Over t.after.shared.defaults)
    (inside : ∀ w c, t.after.poller.active? = some w → w.cycle? = some c →
      ∃ x rest, h.stints m = x :: rest ∧ (x.extend (t.events m) t.interrupts).Follows
        t.after.shared.defaults t.after.shared.cycle w.phase c ∧
        ∀ y ∈ rest, y.Over t.after.shared.defaults) : Kept m (t :: h) t.after := by
  have none := begins?_of_not_work other
  have stints := stints_of_goesOn (m := m) none h
  refine ⟨?_, ?_, ?_, ?_⟩
  · rw [same, kept.calls, stints, modifyHead_extend_calls _ _ _ fun _ => silent, silent,
      List.append_nil]
  · exact kept.begun_cons t
  · rw [stints]
    exact idle
  · intro w c active within
    obtain ⟨x, rest, old, follows, finished⟩ := inside w c active within
    exact ⟨_, rest, by rw [stints, old]; rfl, follows, finished⟩

theorem isCalling_of_cycle? (inside : w.cycle? = some c) :
    w.isCalling = true ∨ ∃ due, w.phase = .pausing c due := by
  cases phase : w.phase <;> simp_all [Worker.isCalling, Worker.cycle?]

theorem not_pausing_of_isCalling (calling : w.isCalling = true) (c : Cycle) (due : Nat) :
    w.phase ≠ .pausing c due := by
  intro pausing
  simp [Worker.isCalling, pausing] at calling

/-- The end of a stop cuts a call that is still out. -/
theorem Kept.stopEnds {serial deadline : Nat} (sound : s.Sound) (kept : Kept m h s)
    (waits : s.stopping = some (serial, deadline)) :
    Kept m (⟨.stopEnds, s, ⟨s.poller.release serial, none⟩⟩ :: h)
      ⟨s.poller.release serial, none⟩ := by
  obtain ⟨absent, w, there, same, leaves⟩ := sound.stopping serial deadline waits
  obtain ⟨status, log, released⟩ := release_eq s.poller serial
  have active : s.poller.active? = some w := by simp [active?, absent, there]
  let t : Transition ω φ := ⟨.stopEnds, s, ⟨s.poller.release serial, none⟩⟩
  have events : t.events m = if w.isCalling then [.abandoned] else [] := by
    simp [t, Transition.events, active]
  have gone : (s.poller.release serial).active? = none := by
    simp [released, active?, absent, there, same]
  have calm : t.interrupts = false := rfl
  refine Kept.beside (t := t) kept (by simp [t]) (by simp [t, System.shared, released]) ?_ ?_ ?_
  · rw [events]
    split <;> rfl
  · intro _
    have defaults : t.after.shared.defaults = s.shared.defaults := by
      simp [t, System.shared, released]
    rw [defaults, events, calm]
    cases inside : w.cycle? with
    | none =>
      have quiet : w.isCalling = false := by
        cases phase : w.phase <;> simp_all [Worker.isCalling, Worker.cycle?]
      rw [quiet]
      refine modifyHead_extend_over _ (kept.idle fun v here => ?_)
      obtain rfl := Option.some.inj (active.symm.trans here)
      exact inside
    | some c =>
      obtain ⟨x, rest, old, follows, finished⟩ := kept.inside w c active inside
      rw [old]
      refine List.forall_mem_cons.2 ⟨?_, finished⟩
      obtain calling | ⟨due, phase⟩ := isCalling_of_cycle? inside
      · rw [calling]
        exact follows.cut (not_pausing_of_isCalling calling) (.inr rfl) false
      -- Between two attempts nothing is cut, and the stop has disturbed the stint.
      · have disturbed : x.disturbed = true := by
          by_contra quiet
          have newest := follows.calm (by simpa using quiet)
          exact absurd newest (Nat.ne_of_lt (leaves.behind c inside))
        have quiet : w.isCalling = false := by simp [Worker.isCalling, phase]
        obtain ⟨done, now, made, counted, shows⟩ := follows.made
        rw [phase] at shows
        cases shows
        rw [quiet]
        have finished := Stint.Over.unwanted done made (counted ▸ Nat.le_of_lt follows.left) disturbed
        exact finished.stays _
  · intro v c here
    rw [gone] at here
    cases here

theorem Kept.step {move : Move} (sound : s.Sound) (kept : Kept m h s) (step : Step m s move s') :
    Kept m (⟨move, s, s'⟩ :: h) s' := by
  by_cases work : move = .work
  · subst work
    cases step with
    | work goes => exact kept.work sound goes
  by_cases ends : move = .stopEnds
  · subst ends
    cases step with
    | stopEnds waits ended => exact kept.stopEnds sound waits
  -- All other moves leave a worker in its cycle and show nothing.
  have outside := step.outside sound work
  have defaults := (step.keeps sound).defaults
  have events : Transition.events m ⟨move, s, s'⟩ = [] := by
    cases move <;> simp_all [Transition.events]
  refine Kept.beside (t := ⟨move, s, s'⟩) kept work outside.calls (by simp [events]) ?_ ?_
  · intro still
    rw [events, defaults]
    refine modifyHead_extend_over _ (kept.idle fun w active => ?_)
    cases inside : w.cycle? with
    | none => rfl
    | some c =>
      obtain ⟨v, here, phase⟩ := step.remains sound work ends active inside
      rw [← inside, Worker.cycle?_eq, ← phase]
      exact still v here
  · intro w c active inside
    obtain ⟨v, was, phase⟩ := outside.inside w c active inside
    have within : v.cycle? = some c := by rw [Worker.cycle?_eq, phase, ← Worker.cycle?_eq, inside]
    obtain ⟨x, rest, old, follows, finished⟩ := kept.inside v c was within
    refine ⟨x, rest, old, ?_, defaults ▸ finished⟩
    rw [events, defaults, outside.cycle, ← phase]
    exact follows.disturb _

theorem Run.kept {start : System ω φ} (run : Run m start h s) (sound : start.Sound)
    (still : start.poller.active? = none) (silent : start.shared.calls = []) : Kept m h s := by
  induction run with
  | nil =>
    exact ⟨by simpa [History.stints] using silent, rfl, by simp [History.stints], by simp [still]⟩
  | cons past step ih => exact ih.step (past.sound sound) step

end System

/-- The calls of a run are those of its stints, one for each cycle that has begun. All stints are
over, except that the newest one may be running while the worker is in its cycle. -/
theorem calls_made_in_attempts {m : Mailboxes ω φ} {roster : Roster} {defaults : Polling}
    {world : ω} {clock : Calendar.Instant} {h : History ω φ} {s : System ω φ}
    (run : System.Run m (System.new roster defaults world clock) h s) :
    s.shared.calls = (h.stints m).reverse.flatMap Stint.calls ∧
      (h.stints m).reverse.map (·.account) = h.begun ∧
      (∀ x ∈ (h.stints m).tail, x.Over defaults) ∧
      ∀ x ∈ (h.stints m).head?, x.Over defaults ∨
        ∃ w c, s.poller.active? = some w ∧ w.cycle? = some c ∧ c.account = x.account ∧
          x.Running defaults c.attempts := by
  have sound : (System.new roster defaults world clock : System ω φ).Sound :=
    System.sound_new roster defaults world clock
  have kept := run.kept sound rfl rfl
  have settings : s.shared.defaults = defaults := (run.keeps sound).defaults
  refine ⟨kept.calls, kept.begun, ?_⟩
  by_cases idle : ∀ w, s.poller.active? = some w → w.cycle? = none
  · have finished := settings ▸ kept.idle idle
    exact ⟨fun x later => finished x (List.mem_of_mem_tail later),
      fun x first => .inl (finished x (List.mem_of_mem_head? first))⟩
  · obtain ⟨w, active, c, inside⟩ : ∃ w, s.poller.active? = some w ∧ ∃ c, w.cycle? = some c := by
      simpa [Option.ne_none_iff_exists'] using idle
    obtain ⟨x, rest, stints, follows, finished⟩ := kept.inside w c active inside
    rw [settings] at follows finished
    rw [stints]
    refine ⟨finished, fun y first => .inr ⟨w, c, active, inside, ?_⟩⟩
    obtain rfl : x = y := by simpa using first
    obtain ⟨done, now, made, counted, shows⟩ := follows.made
    exact ⟨follows.account, follows.left, done, now, made, counted, shows.unfinished⟩

/-- A poller with one account, which asks for more attempts and fewer messages than the defaults:
the first attempt cannot connect, and the second finds a message twice. -/
def System.flaky : System Script.Scripts Script.Step :=
  .new ⟨[⟨"box", "imap", true, none, [], ⟨true, none, []⟩, some ⟨some 2, none, some 7⟩⟩]⟩ ⟨1, 0, 10⟩
    [("box", [{ Script.Step.empty with connect := ⟨0, some (.connection "refused"), false⟩ },
      { Script.Step.empty with batch := [plainMessage "1", plainMessage "1"] }])] ⟨0, 0⟩

/-- Both attempts close their fetchers, and the only stint ends with the second. -/
theorem calls_made_in_attempts_flaky :
    ∃ (h : History Script.Scripts Script.Step) (s : System Script.Scripts Script.Step) (x : Stint),
      System.Run Script.mailboxes .flaky h s ∧
        s.shared.calls.map Call.text = ["create:box", "connect:box", "disconnect:box",
          "create:box", "connect:box",
          "fetch:box:\x7b\"mark_as_read_after_fetch\":true,\"max_emails\":7\x7d", "mark:box:1",
          "disconnect:box"] ∧
        h.stints Script.mailboxes = [x] ∧ s.shared.calls = x.calls ∧ x.Over ⟨1, 0, 10⟩ := by
  obtain ⟨h, s, run, texts, one, still⟩ :
      ∃ (h : History Script.Scripts Script.Step) (s : System Script.Scripts Script.Step),
        System.Run Script.mailboxes .flaky h s ∧
          s.shared.calls.map Call.text = ["create:box", "connect:box", "disconnect:box",
            "create:box", "connect:box",
            "fetch:box:\x7b\"mark_as_read_after_fetch\":true,\"max_emails\":7\x7d", "mark:box:1",
            "disconnect:box"] ∧
          (h.stints Script.mailboxes).length = 1 ∧
          (s.poller.active?.bind (·.cycle?)).isNone = true := by
    have run : System.Run Script.mailboxes .flaky [] .flaky := .nil
    have run := run.cons (.start true rfl) |>.cons (.work rfl) |>.cons (.work rfl)
    have run := run.cons (.work rfl) |>.cons (.work rfl) |>.cons (.work rfl)
    have run := run.cons (.work rfl) |>.cons (.work rfl) |>.cons (.work rfl) |>.cons (.work rfl)
    exact ⟨_, _, run, by decide +kernel, by decide +kernel, by decide +kernel⟩
  obtain ⟨x, stints⟩ := List.length_eq_one_iff.1 one
  obtain ⟨calls, -, -, newest⟩ := calls_made_in_attempts run
  refine ⟨h, s, x, run, texts, stints, by simpa [stints] using calls, ?_⟩
  obtain finished | ⟨w, c, active, inside, -⟩ := newest x (by simp [stints])
  · exact finished
  · simp [active, inside] at still

end MailRound.Poller
