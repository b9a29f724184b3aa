import MailRound.Proofs.Twins.Kinship

namespace MailRound

/-- Two ways to come back that differ at most in the result. -/
inductive Fate.Alike {α : Type} : Fate α → Fate α → Prop
  | returns (a b : Outcome α) : Alike (.returns a) (.returns b)
  | panics (message : String) : Alike (.panics message) (.panics message)

structure Reply.Alike {ω φ α : Type} (r r' : Reply ω φ α) : Prop where
  world : r'.world = r.world
  fetcher : r'.fetcher = r.fetcher
  delay : r'.delay = r.delay
  fate : r.fate.Alike r'.fate

/-- The same mailboxes, except that marking may succeed where it failed, or fail where it
succeeded. -/
def Mailboxes.MarksAlike {ω φ : Type} (m m' : Mailboxes ω φ) : Prop :=
  ∃ markRead, m' = { m with markRead := markRead } ∧
    ∀ world fetcher ids, (m.markRead world fetcher ids).Alike (markRead world fetcher ids)

namespace Poller

variable {ω φ : Type}

/-- The same state, up to the log. -/
def Shared.Alike (s s' : Shared ω) : Prop := ∃ log, s' = { s with log := log }

/-- The same place, up to the result of marking that is still out. -/
inductive Phase.Alike : Phase φ → Phase φ → Prop
  | refl (phase : Phase φ) : Alike phase phase
  | marking (c : Cycle) (fetcher : φ) (due : Nat) (e : Enqueued) {fate fate' : Fate Unit}
    (alike : fate.Alike fate') :
    Alike (.marking c ⟨fetcher, due, fate⟩ e) (.marking c ⟨fetcher, due, fate'⟩ e)

def Offset.none : Offset := ⟨0, 0, 0, 0, .none, []⟩

theorem Offset.none_add_serial (n : Nat) : Offset.none.serial + n = n := Nat.zero_add n

@[simp] theorem Offset.map_none_serial (n? : Option Nat) :
    n?.map (Offset.none.serial + ·) = n? := by
  simp [Offset.none_add_serial]

theorem Shared.ahead_none (log : List Log.Event) (s : Shared ω) :
    s.ahead .none log = { s with log := log } := by
  simp [Shared.ahead, Queue.ahead, Offset.none]

theorem Shared.leads_none {s s' : Shared ω} : s.Leads .none s' ↔ s.Alike s' :=
  exists_congr fun log => by rw [ahead_none]

theorem Phase.ahead_none (phase : Phase φ) : phase.ahead .none = phase := by
  cases phase <;> simp [Phase.ahead, Cycle.ahead, Flight.ahead, Offset.none]

instance : Phase.Blurs (Phase.Alike : Phase φ → Phase φ → Prop) where
  fresh := .refl _
  ends alike := by
    cases alike with
    | refl => exact .inl rfl
    | marking => exact .inr ⟨rfl, rfl⟩

namespace Worker

def Alike (w w' : Worker φ) : Prop := ∃ phase, w.phase.Alike phase ∧ w' = { w with phase := phase }

theorem Alike.refl (w : Worker φ) : w.Alike w := ⟨w.phase, .refl _, rfl⟩

theorem ahead_none (w : Worker φ) : w.ahead .none = w := by
  rw [ahead, Phase.ahead_none]
  simp [Offset.none]

theorem kin_none : Kin .none (Phase.Alike : Phase φ → Phase φ → Prop) = Alike := by
  funext w w'
  refine propext (exists_congr fun phase => and_congr_right' ?_)
  rw [ahead_none]

/-- The same end of a step. -/
def Step.Alike (r r' : Step ω φ) : Prop := r.1.Alike r'.1 ∧ r.2.Alike r'.2

theorem Step.Alike.refl (r : Step ω φ) : r.Alike r := ⟨⟨_, rfl⟩, .refl _⟩

/-- First only the state differs, then the worker may differ too. -/
theorem Step.Alike.after {s s' : Shared ω} {w : Worker φ} {r : Step ω φ} (shared : s.Alike s')
    (alike : Step.Alike (s', w) r) : Step.Alike (s, w) r := by
  obtain ⟨log, rfl⟩ := shared
  obtain ⟨⟨log', same⟩, worker⟩ := alike
  exact ⟨⟨log', same⟩, worker⟩

variable {m m' : Mailboxes ω φ} {s s' : Shared ω} {w w' : Worker φ} {c : Cycle} {r : Step ω φ}

/-- No step depends on the log. -/
theorem step_of_log (log : List Log.Event) (h : w.step m s = some r) :
    ∃ s', w.step m { s with log := log } = some (s', r.2) ∧ r.1.Alike s' := by
  have steps := step_ahead .none m s w log
  rw [h, ahead_none, Shared.ahead_none] at steps
  generalize w.step m { s with log := log } = r'? at steps ⊢
  cases steps with
  | @some _ r' leads =>
    obtain ⟨s', w'⟩ := r'
    obtain ⟨shared, rfl⟩ := leads
    exact ⟨s', by rw [ahead_none], Shared.leads_none.1 shared⟩

theorem afterMark_alike (fetcher : φ) (e : Enqueued) (result result' : Outcome Unit) :
    ∃ s', afterMark m s w c fetcher e result' = (s', (afterMark m s w c fetcher e result).2) ∧
      (afterMark m s w c fetcher e result).1.Alike s' := by
  cases result <;> cases result' <;> exact ⟨_, rfl, _, rfl⟩

theorem step_of_fate {fetcher : φ} {due : Nat} {e : Enqueued} {fate fate' : Fate Unit}
    (alike : fate.Alike fate')
    (h : { w with phase := .marking c ⟨fetcher, due, fate⟩ e }.step m s = some r) :
    ∃ s', { w with phase := .marking c ⟨fetcher, due, fate'⟩ e }.step m s = some (s', r.2) ∧
      r.1.Alike s' := by
  simp only [step] at h ⊢
  have ready : due ≤ s.now := (land_cases h).1
  simp only [land, if_pos ready] at h ⊢
  cases alike with
  | returns a b =>
    obtain rfl := Option.some.inj h
    obtain ⟨s', same, shared⟩ := afterMark_alike (m := m) (s := s) (c := c)
      (w := { w with phase := .marking c ⟨fetcher, due, .returns b⟩ e }) fetcher e a b
    exact ⟨s', congrArg some same, shared⟩
  | panics message =>
    obtain rfl := Option.some.inj h
    exact ⟨_, rfl, _, rfl⟩

theorem launch_alike {reply reply' : Reply ω φ Unit} (call : Call) (e : Enqueued)
    (h : reply.Alike reply') :
    Step.Alike ((s.launch call reply).1, { w with phase := .marking c (s.launch call reply).2 e })
      ((s.launch call reply').1, { w with phase := .marking c (s.launch call reply').2 e }) := by
  obtain ⟨world, fetcher, delay, told, fate⟩ := reply
  obtain ⟨world', fetcher', delay', told', fate'⟩ := reply'
  obtain ⟨rfl, rfl, rfl, alike⟩ := h
  exact ⟨⟨_, rfl⟩, _, .marking c _ _ e alike, rfl⟩

theorem afterBatch_alike (same : m.MarksAlike m') (fetcher : φ) (batch : Shared ω × Enqueued) :
    Step.Alike (afterBatch m w c fetcher batch) (afterBatch m' w c fetcher batch) := by
  obtain ⟨markRead, rfl, replies⟩ := same
  refine rel_ite Iff.rfl (.refl _) (rel_ite Iff.rfl (.refl _) ?_)
  exact launch_alike _ _ (replies _ _ _)

theorem afterFetch_alike (same : m.MarksAlike m') (fetcher : φ)
    (result : Outcome (List Message)) :
    Step.Alike (afterFetch m s w c fetcher result) (afterFetch m' s w c fetcher result) := by
  match result with
  | .ok (x :: xs) =>
    rw [afterFetch_eq_afterBatch m, afterFetch_eq_afterBatch m']
    exact afterBatch_alike same fetcher _
  | .ok [] =>
    obtain ⟨markRead, rfl, -⟩ := same
    exact .refl _
  | .error why =>
    obtain ⟨markRead, rfl, -⟩ := same
    exact .refl _

/-- Mailboxes that mark alike make a difference only when a batch has come. -/
theorem step_of_mailboxes (same : m.MarksAlike m') (h : w.step m s = some r) :
    ∃ r', w.step m' s = some r' ∧ r.Alike r' := by
  obtain ⟨serial, phase, signal, closed, stop⟩ := w
  cases phase with
  | fetching c f =>
    simp only [step] at h ⊢
    obtain ⟨due, ⟨result, back, rfl⟩ | ⟨message, back, rfl⟩⟩ := land_cases h
    · refine ⟨_, ?_, afterFetch_alike same f.fetcher result⟩
      simp only [land, due, if_true, back]
    · exact ⟨_, by simp only [land, due, if_true, back], .refl _⟩
  | _ =>
    obtain ⟨markRead, rfl, -⟩ := same
    exact ⟨r, h, .refl r⟩

/-- Workers alike in states alike make steps alike. -/
theorem step_alike (same : m.MarksAlike m') (shared : s.Alike s') (alike : w.Alike w')
    (h : w.step m s = some r) : ∃ r', w'.step m' s' = some r' ∧ r.Alike r' := by
  obtain ⟨log, rfl⟩ := shared
  obtain ⟨phase, place, rfl⟩ := alike
  obtain ⟨serial, before, signal, closed, stop⟩ := w
  -- What was out may have come back otherwise, then the log is another, then the mailboxes are.
  obtain ⟨t, steps, first⟩ : ∃ t, (⟨serial, phase, signal, closed, stop⟩ : Worker φ).step m s =
      some (t, r.2) ∧ r.1.Alike t := by
    cases place with
    | refl => exact ⟨r.1, h, _, rfl⟩
    | marking c fetcher due e fates =>
      exact step_of_fate (w := ⟨serial, .idle, signal, closed, stop⟩) fates h
  obtain ⟨t', steps', second⟩ := step_of_log log steps
  obtain ⟨r', goes, third⟩ := step_of_mailboxes same steps'
  exact ⟨r', goes, .after first (.after second third)⟩

theorem Alike.finished (h : w.Alike w') : w'.finished = w.finished :=
  (kin_none (φ := φ) ▸ h : Kin .none Phase.Alike w w').finished

theorem Alike.serial (h : w.Alike w') : w'.serial = w.serial := by
  obtain ⟨phase, -, rfl⟩ := h
  rfl

theorem Alike.of_mem {ws ws' : List (Worker φ)} (h : List.Forall₂ Alike ws ws') {w' : Worker φ}
    (member : w' ∈ ws') : ∃ w ∈ ws, w.Alike w' := by
  induction h with
  | nil => cases member
  | @cons w v ws ws' alike rest ih =>
    obtain rfl | later := List.mem_cons.1 member
    · exact ⟨w, List.mem_cons_self, alike⟩
    · obtain ⟨v, found, alike⟩ := ih later
      exact ⟨v, List.mem_cons_of_mem _ found, alike⟩

theorem Alike.split {before after ws : List (Worker φ)} {w : Worker φ}
    (h : List.Forall₂ Alike (before ++ w :: after) ws) : ∃ before' w' after',
      ws = before' ++ w' :: after' ∧ List.Forall₂ Alike before before' ∧ w.Alike w' ∧
        List.Forall₂ Alike after after' := by
  induction before generalizing ws with
  | nil =>
    obtain ⟨w', after', alike, afters, rfl⟩ := List.forall₂_cons_left_iff.1 h
    exact ⟨[], w', after', rfl, .nil, alike, afters⟩
  | cons v before ih =>
    obtain ⟨v', rest, alike, rests, rfl⟩ := List.forall₂_cons_left_iff.1 h
    obtain ⟨before', w', after', rfl, befores, others⟩ := ih rests
    exact ⟨v' :: before', w', after', rfl, .cons alike befores, others⟩

end Worker

/-- The same poller, up to the log and the results of marking that are still out. -/
structure Alike (p p' : Poller ω φ) : Prop where
  accounts : p'.accounts = p.accounts
  shared : p.shared.Alike p'.shared
  worker : Option.Rel Worker.Alike p.worker p'.worker
  leaving : List.Forall₂ Worker.Alike p.leaving p'.leaving
  spawned : p'.spawned = p.spawned

theorem alike_iff_kin {p p' : Poller ω φ} : p.Alike p' ↔ p.Kin .none Phase.Alike p' := by
  constructor
  · rintro ⟨accounts, shared, worker, leaving, spawned⟩
    exact ⟨accounts, Shared.leads_none.2 shared, Worker.kin_none ▸ worker,
      Worker.kin_none ▸ leaving, spawned.trans (Nat.zero_add _).symm⟩
  · rintro ⟨accounts, shared, worker, leaving, spawned⟩
    exact ⟨accounts, Shared.leads_none.1 shared, Worker.kin_none ▸ worker,
      Worker.kin_none ▸ leaving, spawned.trans (Nat.zero_add _)⟩

theorem Kin.alike {p p' : Poller ω φ} (h : p.Kin .none Phase.Alike p') : p.Alike p' :=
  alike_iff_kin.2 h

namespace Alike

variable {p p' : Poller ω φ} (h : p.Alike p')
include h

theorem kin : p.Kin .none Phase.Alike p' := alike_iff_kin.1 h

theorem workers : p.worker = none ∧ p'.worker = none ∨ ∃ w phase, p.worker = some w ∧
    p'.worker = some { w with phase := phase } ∧ w.phase.Alike phase := by
  simpa only [Worker.ahead_none] using h.kin.workers

theorem forget (seen : Option Nat) : (p.forget seen).Alike (p'.forget seen) := by
  suffices cleared : Alike _ _ from (cleared.kin.note _ _).alike
  obtain ⟨log, shared⟩ := h.shared
  refine ⟨h.accounts, ⟨log, by rw [shared, h.accounts]⟩, ?_, h.leaving, h.spawned⟩
  obtain ⟨here, there⟩ | ⟨w, phase, here, there, place⟩ := h.workers
  · rw [here, there]
    exact .none
  · rw [here, there]
    refine .some ?_
    dsimp only
    split
    · exact ⟨phase, place, rfl⟩
    · exact ⟨phase, place, rfl⟩

theorem stepped {m m' : Mailboxes ω φ} (same : m.MarksAlike m') {w : Worker φ}
    {r : Worker.Step ω φ} {q : Poller ω φ} (goes : w.step m p.shared = some r)
    (place : Stepped p w r q) : ∃ w' r' q', w'.serial = w.serial ∧
      w'.step m' p'.shared = some r' ∧ Stepped p' w' r' q' ∧ q.Alike q' := by
  cases place with
  | installed here =>
    obtain ⟨absent, -⟩ | ⟨v, phase, here', there, place⟩ := h.workers
    · cases here.symm.trans absent
    · obtain rfl := Option.some.inj (here.symm.trans here')
      obtain ⟨r', goes', alike⟩ := Worker.step_alike same h.shared ⟨phase, place, rfl⟩ goes
      exact ⟨{ w with phase := phase }, r', _, rfl, goes', .installed there,
        ⟨h.accounts, alike.1, .some alike.2, h.leaving, h.spawned⟩⟩
  | leaving before after there =>
    obtain ⟨before', w', after', there', befores, alike, afters⟩ :=
      Worker.Alike.split (there ▸ h.leaving)
    obtain ⟨r', goes', steps⟩ := Worker.step_alike same h.shared alike goes
    exact ⟨w', r', _, alike.serial, goes', .leaving before' after' there',
      ⟨h.accounts, steps.1, h.worker, List.rel_append befores (.cons steps.2 afters), h.spawned⟩⟩

end Alike

namespace Crowd

structure Alike (s s' : Crowd ω φ) : Prop where
  poller : s.poller.Alike s'.poller
  underway : s'.underway = s.underway

theorem Step.alike {m m' : Mailboxes ω φ} (same : m.MarksAlike m') {s s' t : Crowd ω φ} {act : Act}
    (h : s.Alike t) (step : Step m s act s') : ∃ t', Step m' t act t' ∧ s'.Alike t' := by
  obtain ⟨p, underway⟩ := s
  obtain ⟨p', underway'⟩ := t
  obtain ⟨poller, rfl⟩ := h
  have kin := poller.kin
  have now : p'.shared.now = p.shared.now := kin.now.trans (Nat.zero_add _)
  have target : p'.signalTarget = p.signalTarget := by simpa using kin.signalTarget
  cases step with
  | next => exact ⟨_, .next, poller, by rw [target]⟩
  | look before after here =>
    exact ⟨_, .look before after here, poller, by rw [target]⟩
  | select seen before after here =>
    have selected := (kin.selectNext seen).2.alike
    rw [Offset.map_none_serial] at selected
    exact ⟨_, .select seen before after here, selected, rfl⟩
  | startRunning auto live =>
    have live' : p'.hasLiveWorker = true := kin.hasLiveWorker.trans live
    refine ⟨_, .startRunning auto live', ?_, rfl⟩
    change (p.start auto).Alike (p'.start auto)
    rw [start_of_live live, start_of_live live']
    exact (kin.note _ _).alike
  | start auto dead =>
    exact ⟨_, .start auto (kin.hasLiveWorker.trans dead), (kin.installWorker auto).alike, rfl⟩
  | reset => exact ⟨_, .reset, poller, by rw [target]⟩
  | forget seen before after here =>
    exact ⟨_, .forget seen before after here, poller.forget seen, rfl⟩
  | stopIdle absent =>
    obtain ⟨-, absent'⟩ | ⟨w, phase, here, -⟩ := poller.workers
    · exact ⟨_, .stopIdle absent', poller, rfl⟩
    · cases here.symm.trans absent
  | stop w found =>
    obtain ⟨absent, -⟩ | ⟨v, phase, here, there, -⟩ := poller.workers
    · cases found.symm.trans absent
    · obtain rfl := Option.some.inj (found.symm.trans here)
      exact ⟨_, .stop _ there, kin.takeWorker.alike, rfl⟩
  | retire serial before after here =>
    exact ⟨_, .retire serial before after here, kin.retire.alike, by rw [Crowd.shared, now]⟩
  | release serial deadline before after here ended =>
    have released := (kin.release serial).alike
    rw [Offset.none_add_serial] at released
    refine ⟨_, .release serial deadline before after here ?_, released, rfl⟩
    refine ended.imp (fun finished w' member number => ?_) (now ▸ ·)
    obtain ⟨w, found, alike⟩ := Worker.Alike.of_mem poller.leaving member
    rw [alike.finished]
    exact finished w found (alike.serial ▸ number)
  | getMessage => exact ⟨_, .getMessage, kin.getMessage.2.alike, rfl⟩
  | getLastMessage => exact ⟨_, .getLastMessage, kin.getLastMessage.2.alike, rfl⟩
  | waitEnds done => exact ⟨_, .waitEnds (kin.processing.trans done), poller, rfl⟩
  | waitTimesOut limit busy =>
    exact ⟨_, .waitTimesOut limit (kin.processing.trans busy), (kin.note _ _).alike, rfl⟩
  | work w r goes place =>
    obtain ⟨w', r', q', serial, goes', place', alike⟩ := poller.stepped same goes place
    have step' : Step m' ⟨p', underway'⟩ (.work w'.serial) ⟨q', underway'⟩ :=
      .work w' r' goes' place'
    rw [serial] at step'
    exact ⟨_, step', alike, rfl⟩
  | pass ms =>
    exact ⟨_, .pass ms, Kin.alike (kin.modify (Shared.leads_passed ms)), rfl⟩
  | setClock t =>
    exact ⟨_, .setClock t, Kin.alike (kin.modify (f := fun s => { s with clock := t })), rfl⟩
  | tell event =>
    refine ⟨_, .tell event, ?_, rfl⟩
    exact Kin.alike (kin.modify (f := fun s => { s with log := s.log ++ [event] }))

structure Entry.Alike (t t' : Entry ω φ) : Prop where
  act : t'.act = t.act
  before : t.before.Alike t'.before
  after : t.after.Alike t'.after

theorem Alike.refl (s : Crowd ω φ) : s.Alike s := by
  have worker : Option.Rel Worker.Alike s.poller.worker s.poller.worker := by
    cases s.poller.worker with
    | none => exact .none
    | some w => exact .some (.refl w)
  exact ⟨⟨rfl, ⟨_, rfl⟩, worker, List.forall₂_same.2 fun w _ => .refl w, rfl⟩, rfl⟩

/-- Every run is matched by a run with the other mailboxes. -/
theorem Run.alike {m m' : Mailboxes ω φ} (same : m.MarksAlike m') {start s : Crowd ω φ}
    {j : Journal ω φ} (run : Run m start j s) :
    ∃ j' s', Run m' start j' s' ∧ List.Forall₂ Entry.Alike j j' ∧ s.Alike s' := by
  induction run with
  | nil => exact ⟨[], start, .nil, .nil, .refl start⟩
  | cons past step ih =>
    obtain ⟨j', t, run, entries, alike⟩ := ih
    obtain ⟨t', step', after⟩ := step.alike same alike
    exact ⟨_, t', run.cons step', .cons ⟨rfl, alike, after⟩ entries, after⟩

end Crowd

end Poller

end MailRound
