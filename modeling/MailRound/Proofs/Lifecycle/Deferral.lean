import MailRound.Proofs.Lifecycle.Effort
import MailRound.Proofs.Round.Isolation

namespace MailRound.Poller

variable {ω φ : Type}

/-- The account that a selection comes to while there is no worker. -/
def Transition.deferred? (t : Transition ω φ) : Option Account :=
  match t.move with
  | .next => if t.before.poller.worker.isNone then t.chosen? else none
  | _ => none

def Transition.starts (t : Transition ω φ) : Bool :=
  match t.move with
  | .start _ => true
  | _ => false

namespace History

/-- The account of the latest selection or reset, if that was a selection without a worker. -/
def deferred? (h : History ω φ) : Option Account := (h.find? (·.clears)).bind (·.deferred?)

def unstarted (h : History ω φ) : Bool := (h.takeWhile fun t => !t.clears).all fun t => !t.starts

end History

theorem deferred?_cons (t : Transition ω φ) (h : History ω φ) :
    History.deferred? (t :: h) = if t.clears then t.deferred? else h.deferred? := by
  cases clears : t.clears <;> simp [History.deferred?, clears]

theorem unstarted_cons (t : Transition ω φ) (h : History ω φ) :
    History.unstarted (t :: h) = (t.clears || !t.starts && h.unstarted) := by
  cases clears : t.clears <;> simp [History.unstarted, clears]

namespace System

variable {m : Mailboxes ω φ} {s s' : System ω φ} {h : History ω φ} {p : Poller ω φ}
  {w : Worker φ} {a : Account}

/-- The account waits for a worker, or a start has seen to it. -/
structure Defers (h : History ω φ) (s : System ω φ) (a : Account) : Prop where
  current : s.shared.cursor.current? = some a
  waits : h.unstarted = true →
    s.poller.worker = none ∧ s.stopping = none ∧ s.shared.pending = true
  taken : h.unstarted = false → s.shared.pending = false

theorem Defers.frame {t : Transition ω φ} (defers : Defers h t.before a) (other : t.clears = false)
    (unstarting : t.starts = false) (cursor : t.after.shared.cursor = t.before.shared.cursor)
    (pending : t.after.shared.pending = t.before.shared.pending)
    (unmanned : t.before.poller.worker = none → t.before.stopping = none →
      t.after.poller.worker = none ∧ t.after.stopping = none) : Defers (t :: h) t.after a := by
  have same : History.unstarted (t :: h) = h.unstarted := by
    simp [unstarted_cons, other, unstarting]
  refine ⟨cursor ▸ defers.current, fun unstarted => ?_, fun started => ?_⟩
  · obtain ⟨absent, free, waiting⟩ := defers.waits (same ▸ unstarted)
    obtain ⟨absent', free'⟩ := unmanned absent free
    exact ⟨absent', free', pending.trans waiting⟩
  · exact pending.trans (defers.taken (same ▸ started))

theorem Defers.settled {t : Transition ω φ} (other : t.clears = false) (starts : t.starts = true)
    (current : t.after.shared.cursor.current? = some a)
    (pending : t.after.shared.pending = false) : Defers (t :: h) t.after a := by
  refine ⟨current, fun unstarted => ?_, fun _ => pending⟩
  simp [unstarted_cons, other, starts] at unstarted

theorem Defers.starting {auto : Bool} (defers : Defers h s a)
    (starting : Starting s.poller auto p)
    (other : Transition.clears ⟨.start auto, s, ⟨p, none⟩⟩ = false) :
    Defers (⟨.start auto, s, ⟨p, none⟩⟩ :: h) ⟨p, none⟩ a := by
  cases starting with
  | running log live =>
    refine .settled other rfl defers.current (defers.taken ?_)
    -- While the account waits there is no worker that could be running.
    cases unstarted : h.unstarted with
    | false => rfl
    | true => simp [hasLiveWorker, (defers.waits unstarted).1] at live
  | resumed log dead pending selected => exact .settled other rfl defers.current rfl
  | waiting log dead nothing => exact .settled other rfl defers.current rfl
  | selecting dead => simp [Transition.clears, Transition.selects, dead] at other

theorem Defers.step {move : Move} (sound : s.Sound)
    (defers : ∀ a, h.deferred? = some a → Defers h s a) (step : Step m s move s') (a : Account)
    (deferred : History.deferred? (⟨move, s, s'⟩ :: h) = some a) :
    Defers (⟨move, s, s'⟩ :: h) s' a := by
  rw [deferred?_cons] at deferred
  have before (other : Transition.clears ⟨move, s, s'⟩ = false) : Defers h s a := by
    rw [other] at deferred
    exact defers a deferred
  cases step with
  | start auto free =>
    rw [update_of_free free] at *
    cases clears : Transition.clears ⟨.start auto, s, ⟨s.poller.start auto, none⟩⟩ with
    | true =>
      rw [clears] at deferred
      cases deferred
    | false => exact (before clears).starting (start_starting s.poller auto) clears
  | next free =>
    have unstarted :
        History.unstarted (⟨.next, s, s.update (·.next.2)⟩ :: h) = true := by
      simp [unstarted_cons, Transition.clears, Transition.selects]
    rw [show Transition.clears ⟨.next, s, s.update (·.next.2)⟩ = true from rfl, if_pos rfl]
      at deferred
    obtain ⟨absent, chosen⟩ : s.poller.worker = none ∧
        Transition.chosen? ⟨.next, s, s.update (·.next.2)⟩ = some a := by
      simpa [Transition.deferred?] using deferred
    obtain ⟨returned, current⟩ : some s.poller.next.1 = some true ∧
        s.poller.next.2.shared.cursor.current? = some a := by
      simpa [Transition.chosen?, Transition.returned?, update, shared] using chosen
    refine ⟨current, fun _ => ?_, fun started => by cases unstarted.symm.trans started⟩
    have selection := next_selection s.poller fun w here => by cases absent.symm.trans here
    simp only [update, shared]
    generalize s.poller.next = result at selection returned
    cases selection with
    | exhausted log past => cases returned
    | deferred log selected _ => exact ⟨absent, free, rfl⟩
    | signalled log selected w here => cases absent.symm.trans here
  | reset free => cases deferred
  | stop free found =>
    have same := before rfl
    rw [stop_eq found] at *
    exact same.frame rfl rfl rfl rfl fun absent => by cases absent.symm.trans found
  | @stopEnds serial deadline waits ended =>
    obtain ⟨status, log, released⟩ := release_eq s.poller serial
    have same := before rfl
    rw [released] at *
    exact same.frame rfl rfl rfl rfl fun _ free => by cases free.symm.trans waits
  | @work p goes =>
    obtain ⟨w, r, made, put, turned⟩ := sound.turned goes
    refine (before rfl).frame rfl rfl turned.effect.stays.cursor turned.effect.stays.pending ?_
    intro (absent : s.poller.worker = none) free
    have nobody : s.poller.active? = none := by simp [active?, absent, sound.free free]
    cases nobody.symm.trans turned.worked.active.1
  | _ => exact (before rfl).frame rfl rfl rfl rfl fun absent free => ⟨absent, free⟩

theorem Run.defers {roster : Roster} {defaults : Polling} {world : ω} {clock : Calendar.Instant}
    (run : Run m (.new roster defaults world clock) h s) (a : Account)
    (deferred : h.deferred? = some a) : Defers h s a := by
  induction run generalizing a with
  | nil => cases deferred
  | cons past step ih =>
    exact Defers.step (past.sound (sound_new roster defaults world clock)) ih step a deferred

/-- What becomes of a worker that the caller leaves alone: with its second step, for which it has to
wait for nothing, it begins the cycle of this account, and it begins no other. Without an account it
begins none. -/
structure Polls (m : Mailboxes ω φ) (s : System ω φ) (a? : Option Account) : Prop where
  begun : ∀ later s', Run m s later s' → (∀ t ∈ later, t.move.beside = true) →
    later.begun = if later.strides < 2 then [] else a?.toList
  goes : a?.isSome = true → ∀ later s', Run m s later s' → (∀ t ∈ later, t.move.beside = true) →
    later.strides < 2 → (s'.poller.stepWorker m).isSome = true

inductive Nearing (a : Account) (w : Worker φ) : History ω φ → Prop
  | sleeps {later : History ω φ} (fresh : w.phase = .fresh) (signal : w.signal = true)
    (none : later.strides = 0) (begun : later.begun = []) : Nearing a w later
  | wakes {later : History ω φ} (idle : w.phase = .idle) (signal : w.signal = true)
    (one : later.strides = 1) (begun : later.begun = []) : Nearing a w later
  | arrived {later : History ω φ} (silent : w.signal = false) (more : 2 ≤ later.strides)
    (begun : later.begun = [a]) : Nearing a w later

theorem Nearing.work {later : History ω φ} (sound : s.Sound) (here : s.poller.worker = some w)
    (current : s.shared.cursor.current? = some a) (nearing : Nearing a w later)
    (goes : s.poller.stepWorker m = some p) : ∃ w', p.worker = some w' ∧
      p.shared.cursor.current? = some a ∧
      Nearing a w' (⟨.work, s, { s with poller := p }⟩ :: later) := by
  obtain ⟨v, r, made, put, turned⟩ := sound.turned goes
  obtain ⟨active, -, -⟩ := turned.worked.active
  obtain rfl := Option.some.inj ((active?_of_worker here).symm.trans active)
  have installs := turned.worked.installs here
  refine ⟨r.2, installs, (congrArg _ turned.effect.stays.cursor).trans current, ?_⟩
  have strides : History.strides (⟨.work, s, { s with poller := p }⟩ :: later) =
      later.strides + 1 := strides_cons _ _
  have begun := begun_cons ⟨.work, s, { s with poller := p }⟩ later
  rw [turned.begins?] at begun
  cases nearing with
  | sleeps fresh signal none before =>
    have step := turned.step
    rw [Worker.step, fresh] at step
    obtain rfl := Option.some.inj step
    refine .wakes rfl signal (by rw [strides, none]) ?_
    rw [begun, before, Worker.begins?, fresh]
    rfl
  | wakes idle signal one before =>
    have fits := sound.installed w here
    have begins := Worker.begins?_eq_some.2 ⟨idle, fits.running, signal, current⟩
    have present := ((sound.work goes).installed r.2 installs).here
    refine .arrived (turned.turn.takes idle present).2 (by omega) ?_
    rw [begun, before, begins]
    rfl
  | arrived silent more before =>
    have unsignalled : w.begins? s.shared = none := by
      cases begins : w.begins? s.shared with
      | none => rfl
      | some b => cases silent.symm.trans (Worker.begins?_eq_some.1 begins).2.2.1
    refine .arrived ?_ (by omega) (by rw [begun, before, unsignalled]; rfl)
    cases up : r.2.signal with
    | false => rfl
    | true => cases silent.symm.trans (turned.turn.signal_le up)

theorem Nearing.run {later : History ω φ} (sound : s.Sound) (here : s.poller.worker = some w)
    (fresh : w.phase = .fresh) (signal : w.signal = true)
    (current : s.shared.cursor.current? = some a) (run : Run m s later s')
    (beside : ∀ t ∈ later, t.move.beside = true) : ∃ w', s'.poller.worker = some w' ∧
      s'.shared.cursor.current? = some a ∧ Nearing a w' later := by
  induction run with
  | nil => exact ⟨w, here, current, .sleeps fresh signal rfl rfl⟩
  | @cons later s₁ move s₂ past step ih =>
    obtain ⟨outer, before⟩ := List.forall_mem_cons.1 beside
    obtain ⟨w₁, here₁, current₁, nearing⟩ := ih before
    have still {t : Transition ω φ} (none : t.begins? = none) (rests : t.move.strides = false) :
        Nearing a w₁ (t :: later) := by
      have strides := strides_cons t later
      rw [rests] at strides
      have begun := begun_cons_of_none (h := later) none
      cases nearing with
      | sleeps fresh signal none empty =>
        exact .sleeps fresh signal (strides.trans none) (begun.trans empty)
      | wakes idle signal one empty =>
        exact .wakes idle signal (strides.trans one) (begun.trans empty)
      | arrived silent more one => exact .arrived silent (strides.symm ▸ more) (begun.trans one)
    cases step with
    | work goes => exact nearing.work (past.sound sound) here₁ current₁ goes
    | pass ms => exact ⟨w₁, here₁, current₁, still rfl rfl⟩
    | setClock t => exact ⟨w₁, here₁, current₁, still rfl rfl⟩
    | tell event => exact ⟨w₁, here₁, current₁, still rfl rfl⟩
    | _ => cases outer

theorem polls_of_signal (sound : s.Sound) (here : s.poller.worker = some w)
    (fresh : w.phase = .fresh) (signal : w.signal = true)
    (current : s.shared.cursor.current? = some a) : Polls m s (some a) := by
  refine ⟨fun later s' run beside => ?_, fun _ later s' run beside few => ?_⟩
  · obtain ⟨w', -, -, nearing⟩ := Nearing.run sound here fresh signal current run beside
    cases nearing with
    | sleeps _ _ none begun => rw [none, begun]; rfl
    | wakes _ _ one begun => rw [one, begun]; rfl
    | arrived _ more begun => rw [begun, if_neg (by omega)]; rfl
  · obtain ⟨w', here', current', nearing⟩ := Nearing.run sound here fresh signal current run beside
    have sound' := run.sound sound
    have running := (sound'.installed w' here').running
    refine Option.isSome_iff_ne_none.2 fun stuck => ?_
    have rests := sound'.stuck.1 stuck w' (active?_of_worker here')
    cases nearing with
    | sleeps fresh _ _ _ => simp [Worker.step, fresh] at rests
    | wakes idle signal _ _ => simp [Worker.step, idle, signal, running] at rests
    | arrived _ more _ => omega

theorem polls_of_silence (sound : s.Sound) (here : s.poller.worker = some w)
    (silent : w.signal = false) : Polls m s none := by
  have kept (later : History ω φ) (s' : System ω φ) (run : Run m s later s')
      (beside : ∀ t ∈ later, t.move.beside = true) :
      later.begun = [] ∧ ∃ w', s'.poller.worker = some w' ∧ w'.signal = false := by
    induction run with
    | nil => exact ⟨rfl, w, here, silent⟩
    | @cons later s₁ move s₂ past step ih =>
      obtain ⟨outer, before⟩ := List.forall_mem_cons.1 beside
      obtain ⟨begun, w₁, here₁, silent₁⟩ := ih before
      cases step with
      | work goes =>
        obtain ⟨v, r, made, put, turned⟩ := (past.sound sound).turned goes
        obtain ⟨active, -, -⟩ := turned.worked.active
        obtain rfl := Option.some.inj ((active?_of_worker here₁).symm.trans active)
        refine ⟨?_, r.2, turned.worked.installs here₁, ?_⟩
        · rw [begun_cons, begun, turned.begins?]
          cases begins : w₁.begins? s₁.shared with
          | none => rfl
          | some b => cases silent₁.symm.trans (Worker.begins?_eq_some.1 begins).2.2.1
        · cases up : r.2.signal with
          | false => rfl
          | true => cases silent₁.symm.trans (turned.turn.signal_le up)
      | pass ms => exact ⟨(begun_cons_of_none rfl).trans begun, w₁, here₁, silent₁⟩
      | setClock t => exact ⟨(begun_cons_of_none rfl).trans begun, w₁, here₁, silent₁⟩
      | tell event => exact ⟨(begun_cons_of_none rfl).trans begun, w₁, here₁, silent₁⟩
      | _ => cases outer
  refine ⟨fun later s' run beside => ?_, fun some => by cases some⟩
  rw [(kept later s' run beside).1]
  simp

/-- A start with a selection goes on to the account behind the one that was selected before. -/
theorem polls_next (sound : s.Sound) (free : s.stopping = none)
    (dead : s.poller.hasLiveWorker = false) {i : Nat} (index : s.shared.cursor.index = some i) :
    Polls m (s.update (·.start true)) s.shared.cursor.accounts[i + 1]? := by
  have later := (Step.start (m := m) true free)
  have sound' := sound.step later
  have place : s.shared.cursor.place = i + 1 := by rw [Cursor.place, index]
  rw [update_of_free free] at *
  have started : s.poller.start true = (s.poller.installWorker true).next.2 := by
    simp [start, dead]
  replace sound' : Sound ⟨(s.poller.installWorker true).next.2, none⟩ := started ▸ sound'
  rw [started]
  obtain ⟨log, selection⟩ := auto_selection s.poller
  generalize (s.poller.installWorker true).next = result at selection sound'
  have advance := s.shared.cursor.advance_eq
  rw [place] at advance
  cases selection with
  | exhausted log' past =>
    have beyond : s.shared.cursor.accounts[i + 1]? = none := by
      by_contra inside
      obtain ⟨b, there⟩ := Option.ne_none_iff_exists'.1 inside
      obtain ⟨within, -⟩ := List.getElem?_eq_some_iff.1 there
      rw [if_pos within] at advance
      simp [manned, advance, Cursor.current?, there] at past
    rw [beyond]
    exact polls_of_silence sound' rfl rfl
  | deferred log' chosen absent => cases absent
  | signalled log' chosen w here =>
    obtain rfl := Option.some.inj here
    have current : ((s.poller.manned log).advanced log').cursor.current? =
        s.shared.cursor.accounts[i + 1]? := by
      by_cases inside : i + 1 < s.shared.cursor.accounts.length
      · rw [if_pos inside] at advance
        simp [advanced, manned, advance, Cursor.current?]
      · rw [if_neg inside] at advance
        simp [manned, advance, Cursor.current?] at chosen
    obtain ⟨b, there⟩ := Option.isSome_iff_exists.1 chosen
    rw [← current]
    rw [show ((s.poller.manned log).advanced log').cursor.current? = some b from there]
    exact polls_of_signal sound' rfl rfl rfl there

theorem Polls.reaches (polls : Polls m s (some a)) : ∃ later s', Run m s later s' ∧
    (∀ t ∈ later, t.move.beside = true) ∧ later.begun = [a] := by
  obtain ⟨p, goes⟩ := Option.isSome_iff_exists.1 (polls.goes rfl [] s .nil (by simp) Nat.two_pos)
  have one : Run m s _ { s with poller := p } := .cons .nil (.work goes)
  obtain ⟨q, goes'⟩ := Option.isSome_iff_exists.1
    (polls.goes rfl _ _ one (by simp [Move.beside]) Nat.one_lt_two)
  have two : Run m s _ { s with poller := q } := one.cons (.work goes')
  exact ⟨_, _, two, by simp [Move.beside], polls.begun _ _ two (by simp [Move.beside])⟩

/-- What a worker polls that is left alone is settled from the start. -/
theorem Polls.unique {b? : Option Account} (polls : Polls m s (some a)) (polls' : Polls m s b?) :
    b? = some a := by
  obtain ⟨later, s', run, beside, begun⟩ := polls.reaches
  have begun' := polls'.begun later s' run beside
  rw [begun] at begun'
  split at begun'
  · cases begun'
  · cases b? with
    | none => cases begun'
    | some b => exact congrArg some (List.cons.inj begun').1.symm

end System

/-- The account of a selection without a worker is under the cursor until the next selection. The
first start since polls it before any other if it does not select; a later one, after a stop, finds
it taken. A start with a selection polls the account behind it, which is none if it is the last. -/
theorem deferred_selection_polled {m : Mailboxes ω φ} {roster : Roster} {defaults : Polling}
    {world : ω} {clock : Calendar.Instant} {h : History ω φ} {s : System ω φ} {a : Account}
    (run : System.Run m (System.new roster defaults world clock) h s) (free : s.stopping = none)
    (absent : s.poller.worker = none) (deferred : h.deferred? = some a) :
    System.Polls m (s.update (·.start false)) (if h.unstarted then some a else none) ∧
      ∃ i, s.shared.cursor.index = some i ∧ roster.enabled[i]? = some a ∧
        System.Polls m (s.update (·.start true)) roster.enabled[i + 1]? := by
  have sound := run.sound (System.sound_new roster defaults world clock)
  have dead : s.poller.hasLiveWorker = false := by simp [hasLiveWorker, absent]
  have accounts : s.shared.cursor.accounts = roster.enabled := by
    rw [(run.listed (System.sound_new roster defaults world clock)
      (System.listed_new roster defaults world clock)).enabled,
      (run.keeps (System.sound_new roster defaults world clock)).accounts]
    rfl
  have defers := run.defers a deferred
  obtain ⟨i, index, there⟩ : ∃ i, s.shared.cursor.index = some i ∧
      s.shared.cursor.accounts[i]? = some a := by
    simpa [Cursor.current?, Option.bind_eq_some_iff] using defers.current
  refine ⟨?_, i, index, accounts ▸ there, accounts ▸ System.polls_next sound free dead index⟩
  have sound' := sound.step (System.Step.start (m := m) false free)
  have starting := start_starting s.poller false
  rw [System.update_of_free free] at sound' ⊢
  generalize s.poller.start false = p at sound' starting
  cases starting with
  | running log live => cases dead.symm.trans live
  | resumed log dead pending selected =>
    cases unstarted : h.unstarted with
    | true => exact System.polls_of_signal sound' rfl rfl rfl defers.current
    | false => cases (defers.taken unstarted).symm.trans pending
  | waiting log dead nothing =>
    cases unstarted : h.unstarted with
    | false => exact System.polls_of_silence sound' rfl rfl
    | true => simp [(defers.waits unstarted).2.2, defers.current] at nothing

theorem deferred_selection_polled_twoBoxes :
    ∃ (h : History Script.Scripts Script.Step) (s : System Script.Scripts Script.Step),
      System.Run Script.mailboxes (.new twoBoxes ⟨2, 0, 10⟩ twoScripts ⟨0, 0⟩) h s ∧
        s.stopping = none ∧ s.poller.worker = none ∧ h.deferred? = some homeBox ∧
        System.Polls Script.mailboxes (s.update (·.start false)) (some homeBox) := by
  have run : System.Run Script.mailboxes (.new twoBoxes ⟨2, 0, 10⟩ twoScripts ⟨0, 0⟩) [] _ := .nil
  have run := run.cons (.next rfl)
  exact ⟨_, _, run, rfl, rfl, rfl, (deferred_selection_polled run rfl rfl rfl).1⟩

/-- A start with a selection passes over the first box that was selected before: the first cycle is
for the box behind it. A start without one begins no cycle if an earlier worker was stopped on its
way to that box. -/
theorem deferred_selection_passed_over :
    (∃ (h : History Script.Scripts Script.Step) (s : System Script.Scripts Script.Step),
      System.Run Script.mailboxes (.new twoBoxes ⟨2, 0, 10⟩ twoScripts ⟨0, 0⟩) h s ∧
        s.stopping = none ∧ s.poller.worker = none ∧ h.deferred? = some homeBox ∧
        System.Polls Script.mailboxes (s.update (·.start true)) (some workBox) ∧
        ¬ System.Polls Script.mailboxes (s.update (·.start true)) (some homeBox)) ∧
    ∃ (h : History Script.Scripts Script.Step) (s : System Script.Scripts Script.Step),
      System.Run Script.mailboxes (.new twoBoxes ⟨2, 0, 10⟩ twoScripts ⟨0, 0⟩) h s ∧
        s.stopping = none ∧ s.poller.worker = none ∧ h.deferred? = some homeBox ∧
        System.Polls Script.mailboxes (s.update (·.start false)) none ∧
        ¬ System.Polls Script.mailboxes (s.update (·.start false)) (some homeBox) := by
  have run : System.Run Script.mailboxes (.new twoBoxes ⟨2, 0, 10⟩ twoScripts ⟨0, 0⟩) [] _ := .nil
  have first := run.cons (.next rfl)
  have second := first.cons (.start false rfl) |>.cons (.stop rfl rfl) |>.cons (.work rfl)
    |>.cons (.work rfl) |>.cons (.stopEnds rfl (.inl (by decide +kernel)))
  have behind : System.Polls Script.mailboxes _ (some workBox) :=
    System.polls_next (first.sound (System.sound_new twoBoxes ⟨2, 0, 10⟩ twoScripts ⟨0, 0⟩)) rfl rfl
      (i := 0) rfl
  have sound := (second.cons (.start false rfl)).sound
    (System.sound_new twoBoxes ⟨2, 0, 10⟩ twoScripts ⟨0, 0⟩)
  have silent : System.Polls Script.mailboxes _ none := System.polls_of_silence sound rfl rfl
  refine ⟨⟨_, _, first, rfl, rfl, rfl, behind, fun polls => ?_⟩,
    ⟨_, _, second, rfl, rfl, rfl, silent, fun polls => ?_⟩⟩
  · exact absurd (polls.unique behind) (by simp [homeBox, workBox])
  · exact absurd (polls.unique silent) (by simp)

end MailRound.Poller
