import MailRound.Proofs.Crowd.Run
import MailRound.Proofs.Twins.Offset
import Mathlib.Data.List.Forall2

namespace MailRound.Poller

variable {ω φ : Type} {d : Offset} {R : Phase φ → Phase φ → Prop}

def Phase.ended : Phase φ → Bool
  | .exited => true
  | .panicked _ => true
  | _ => false

theorem Worker.finished_eq (w : Worker φ) : w.finished = w.phase.ended := by
  unfold finished
  cases w.phase <;> rfl

/-- Places that no caller can tell apart: workers begin alike, and how one has ended is the same. -/
class Phase.Blurs (R : Phase φ → Phase φ → Prop) : Prop where
  fresh : R .fresh .fresh
  ends : ∀ {phase phase'}, R phase phase' →
    phase' = phase ∨ phase.ended = false ∧ phase'.ended = false

theorem Shared.leads_passed (ms : Nat) (s : Shared ω) (log : List Log.Event) :
    Leads d { s with now := s.now + ms } { s.ahead d log with now := (s.ahead d log).now + ms } :=
  ⟨log, by simp only [ahead, Nat.add_assoc]⟩

namespace Worker

def Kin (d : Offset) (R : Phase φ → Phase φ → Prop) (w w' : Worker φ) : Prop :=
  ∃ phase, R w.phase phase ∧ w' = { w.ahead d with phase := phase }

theorem Kin.finished [Phase.Blurs R] {w w' : Worker φ} (h : w.Kin d R w') :
    w'.finished = w.finished := by
  obtain ⟨phase, place, rfl⟩ := h
  rw [finished_eq, finished_eq]
  obtain same | ⟨runs, runs'⟩ := Phase.Blurs.ends place
  · exact congrArg Phase.ended same
  · exact runs'.trans runs.symm

theorem Kin.serial {w w' : Worker φ} (h : w.Kin d R w') : w'.serial = d.serial + w.serial := by
  obtain ⟨phase, -, rfl⟩ := h
  rfl

theorem Kin.find {ws ws' : List (Worker φ)} (h : List.Forall₂ (Kin d R) ws ws') (serial : Nat) :
    Option.Rel (Kin d R) (ws.find? (·.serial = serial))
      (ws'.find? (·.serial = d.serial + serial)) := by
  induction h with
  | nil => exact .none
  | @cons w w' ws ws' kin rest ih =>
    by_cases found : w.serial = serial
    · simpa [kin.serial, found] using kin
    · simpa [kin.serial, found] using ih

end Worker

/-- The same poller at the distance, with workers in related places. -/
structure Kin (d : Offset) (R : Phase φ → Phase φ → Prop) (p p' : Poller ω φ) : Prop where
  accounts : p'.accounts = p.accounts
  shared : p.shared.Leads d p'.shared
  worker : Option.Rel (Worker.Kin d R) p.worker p'.worker
  leaving : List.Forall₂ (Worker.Kin d R) p.leaving p'.leaving
  spawned : p'.spawned = d.serial + p.spawned

/-- The calls that are made from one moment to another are the same at the distance. -/
theorem Kin.made {p p' q q' : Poller ω φ} (before : p.Kin d R p') (after : q.Kin d R q') :
    q'.shared.calls.drop p'.shared.calls.length = q.shared.calls.drop p.shared.calls.length := by
  obtain ⟨log, was⟩ := before.shared
  obtain ⟨log', now⟩ := after.shared
  rw [was, now]
  simp only [Shared.ahead, List.length_append, List.drop_length_add_append]

namespace Kin

variable {p p' : Poller ω φ} (h : p.Kin d R p')
include h

theorem workers : p.worker = none ∧ p'.worker = none ∨ ∃ w phase, p.worker = some w ∧
    p'.worker = some { w.ahead d with phase := phase } ∧ R w.phase phase := by
  have worker := h.worker
  cases here : p.worker <;> cases there : p'.worker <;> rw [here, there] at worker
  · exact .inl ⟨rfl, rfl⟩
  · cases worker
  · cases worker
  · cases worker with
    | some kin =>
      obtain ⟨phase, place, rfl⟩ := kin
      exact .inr ⟨_, phase, rfl, rfl, place⟩

theorem modify {f : Shared ω → Shared ω}
    (blind : ∀ s log, Shared.Leads d (f s) (f (s.ahead d log)) := by
      exact fun _ _ => ⟨_, rfl⟩) :
    (p.modify f).Kin d R (p'.modify f) := by
  obtain ⟨log, shared⟩ := h.shared
  refine ⟨h.accounts, ?_, h.worker, h.leaving, h.spawned⟩
  rw [Poller.modify, Poller.modify, shared]
  exact blind p.shared log

theorem note (level : Log.Level) (text : String) :
    (p.note level text).Kin d R (p'.note level text) := h.modify

theorem now : p'.shared.now = d.now + p.shared.now := by
  obtain ⟨log, shared⟩ := h.shared
  rw [shared]
  rfl

theorem processing : p'.shared.processing = p.shared.processing := by
  obtain ⟨log, shared⟩ := h.shared
  rw [shared]
  rfl

theorem cursor : p'.shared.cursor = p.shared.cursor := by
  obtain ⟨log, shared⟩ := h.shared
  rw [shared]
  rfl

theorem status : p'.shared.status = p.shared.status := by
  obtain ⟨log, shared⟩ := h.shared
  rw [shared]
  rfl

theorem pending : p'.shared.pending = p.shared.pending := by
  obtain ⟨log, shared⟩ := h.shared
  rw [shared]
  rfl

theorem queue : p'.shared.queue = p.shared.queue.ahead d := by
  obtain ⟨log, shared⟩ := h.shared
  rw [shared]
  rfl

theorem putQueue (q : Queue) : (p.modify fun s => { s with queue := q }).Kin d R
    (p'.modify fun s => { s with queue := q.ahead d }) := by
  obtain ⟨log, shared⟩ := h.shared
  refine ⟨h.accounts, ⟨log, ?_⟩, h.worker, h.leaving, h.spawned⟩
  rw [Poller.modify, Poller.modify, shared]
  rfl

theorem getMessage :
    p'.getMessage.1 = p.getMessage.1 ∧ p.getMessage.2.Kin d R p'.getMessage.2 := by
  have taken : (p.shared.queue.ahead d).get? =
      (p.shared.queue.get?.1, p.shared.queue.get?.2.ahead d) := by
    cases here : p.shared.queue.messages <;> simp [Queue.get?, Queue.ahead, here]
  unfold Poller.getMessage
  rw [h.queue, taken]
  exact ⟨rfl, h.putQueue p.shared.queue.get?.2⟩

theorem getLastMessage :
    p'.getLastMessage.1 = p.getLastMessage.1 ∧ p.getLastMessage.2.Kin d R p'.getLastMessage.2 := by
  unfold Poller.getLastMessage
  rw [h.queue]
  exact ⟨rfl, h.putQueue p.shared.queue.clear⟩

theorem hasLiveWorker [Phase.Blurs R] : p'.hasLiveWorker = p.hasLiveWorker := by
  obtain ⟨here, there⟩ | ⟨w, phase, here, there, place⟩ := h.workers
  · simp [Poller.hasLiveWorker, here, there]
  · have same := Worker.Kin.finished (d := d) ⟨phase, place, rfl⟩
    simp [Poller.hasLiveWorker, here, there, same]

theorem signalTarget : p'.signalTarget = p.signalTarget.map (d.serial + ·) := by
  obtain ⟨here, there⟩ | ⟨w, phase, here, there, -⟩ := h.workers
  · simp [Poller.signalTarget, here, there]
  · simp [Poller.signalTarget, here, there, Worker.ahead]

theorem sendSignal (serial : Nat) :
    (p.sendSignal serial).Kin d R (p'.sendSignal (d.serial + serial)) := by
  have refused := h.note .debug "Worker signal already pending"
  unfold Poller.sendSignal
  obtain ⟨here, there⟩ | ⟨w, phase, here, there, place⟩ := h.workers
  · rw [here, there]
    exact refused
  · rw [here, there]
    refine Worker.rel_ite (and_congr_left' Nat.add_left_cancel_iff.symm) ?_ refused
    exact ⟨h.accounts, h.shared, .some ⟨phase, place, rfl⟩, h.leaving, h.spawned⟩

theorem selectNext (target : Option Nat) :
    (p'.selectNext (target.map (d.serial + ·))).1 = (p.selectNext target).1 ∧
      (p.selectNext target).2.Kin d R (p'.selectNext (target.map (d.serial + ·))).2 := by
  have bumped := h.modify (f := fun s => { s with queue := s.queue.clear, cycle := s.cycle + 1 })
  unfold Poller.selectNext
  dsimp only
  rw [bumped.cursor]
  obtain ⟨more, cursor⟩ := (p.modify fun s =>
    { s with queue := s.queue.clear, cycle := s.cycle + 1 }).shared.cursor.advance
  cases more with
  | false =>
    refine ⟨rfl, ?_⟩
    dsimp only
    exact (bumped.modify.note _ _).modify
  | true =>
    cases target with
    | none =>
      refine ⟨rfl, ?_⟩
      dsimp only [Option.map_none]
      exact (bumped.modify.note _ _).modify
    | some serial =>
      refine ⟨rfl, ?_⟩
      dsimp only [Option.map_some]
      exact bumped.modify.modify.sendSignal serial

theorem next : p'.next.1 = p.next.1 ∧ p.next.2.Kin d R p'.next.2 := by
  rw [Poller.next, Poller.next, h.signalTarget]
  exact h.selectNext p.signalTarget

theorem manned [Phase.Blurs R] (log log' : List Log.Event) :
    (p.manned log).Kin d R (p'.manned log') := by
  obtain ⟨told, shared⟩ := h.shared
  refine ⟨h.accounts, ⟨log', ?_⟩, ?_, h.leaving, ?_⟩
  · rw [Poller.manned, Poller.manned, shared]
    rfl
  · rw [Poller.manned, Poller.manned, h.spawned]
    exact .some ⟨.fresh, Phase.Blurs.fresh, rfl⟩
  · rw [Poller.manned, Poller.manned, h.spawned]
    rfl

theorem installWorker [Phase.Blurs R] (auto : Bool) :
    (p.installWorker auto).Kin d R (p'.installWorker auto) := by
  cases auto with
  | true =>
    obtain ⟨log, here⟩ := installWorker_auto p
    obtain ⟨log', there⟩ := installWorker_auto p'
    rw [here, there]
    exact h.manned log log'
  | false =>
    by_cases nothing : p.shared.pending = false ∨ p.shared.cursor.current? = none
    · obtain ⟨log, here⟩ := installWorker_waits nothing
      obtain ⟨log', there⟩ := installWorker_waits (p := p') (by rwa [h.pending, h.cursor])
      rw [here, there]
      exact (h.manned log log').modify (f := fun s => { s with pending := false })
    · rw [not_or, Bool.not_eq_false, ← ne_eq, Option.ne_none_iff_exists'] at nothing
      obtain ⟨resumes, account, selected⟩ := nothing
      obtain ⟨log, here⟩ := installWorker_resumes resumes selected
      obtain ⟨log', there⟩ := installWorker_resumes (h.pending.trans resumes)
        (h.cursor ▸ selected)
      have settled := (h.manned log log').modify
        (f := fun s => { s with pending := false, processing := true })
      rw [here, there, h.spawned]
      exact ⟨settled.accounts, settled.shared, .some ⟨.fresh, Phase.Blurs.fresh, rfl⟩,
        settled.leaving, settled.spawned⟩

theorem start [Phase.Blurs R] (auto : Bool) : (p.start auto).Kin d R (p'.start auto) := by
  cases live : p.hasLiveWorker with
  | true =>
    rw [start_of_live live, start_of_live (h.hasLiveWorker.trans live)]
    exact h.note _ _
  | false =>
    have dead := h.hasLiveWorker.trans live
    simp only [Poller.start, live, dead, Bool.false_eq_true, if_false]
    have settled := h.installWorker auto
    cases auto with
    | true => exact settled.next.2
    | false => exact settled

theorem reset : p.reset.Kin d R p'.reset := by
  obtain ⟨told, here⟩ := reset_eq p
  obtain ⟨told', there⟩ := reset_eq p'
  obtain ⟨log, shared⟩ := h.shared
  rw [here, there]
  refine ⟨h.accounts, ⟨told', ?_⟩, ?_, h.leaving, h.spawned⟩
  · rw [shared, h.accounts]
    rfl
  · obtain ⟨absent, absent'⟩ | ⟨w, phase, here, there, place⟩ := h.workers
    · rw [absent, absent']
      exact .none
    · rw [here, there]
      exact .some ⟨phase, place, rfl⟩

theorem takeWorker : p.takeWorker.2.Kin d R p'.takeWorker.2 := by
  obtain ⟨here, there⟩ | ⟨w, phase, here, there, place⟩ := h.workers
  · simpa [Poller.takeWorker, here, there] using h
  · rw [takeWorker_eq here, takeWorker_eq there]
    exact ⟨h.accounts, h.shared, .none, .cons ⟨phase, place, rfl⟩ h.leaving, h.spawned⟩

theorem retire : p.retire.Kin d R p'.retire := h.modify

/-- Nobody is told whether a worker that is given up has woken up. -/
theorem release [Phase.Blurs R] (serial : Nat) :
    (p.release serial).Kin d R (p'.release (d.serial + serial)) := by
  have found := Worker.Kin.find h.leaving serial
  have others : List.Forall₂ (Worker.Kin d R) (p.leaving.filter (·.serial ≠ serial))
      (p'.leaving.filter (·.serial ≠ d.serial + serial)) :=
    List.rel_filter (fun _ _ kin => by simp [kin.serial]) h.leaving
  have left : Kin d R { p with leaving := p.leaving.filter (·.serial ≠ serial) }
      { p' with leaving := p'.leaving.filter (·.serial ≠ d.serial + serial) } :=
    ⟨h.accounts, h.shared, h.worker, others, h.spawned⟩
  unfold Poller.release
  dsimp only
  generalize p.leaving.find? (·.serial = serial) = here at found ⊢
  generalize p'.leaving.find? (·.serial = d.serial + serial) = there at found ⊢
  cases found with
  | none => exact left
  | @some w w' kin =>
    obtain ⟨phase, place, rfl⟩ := kin
    obtain ⟨number, before, signal, closed, stop⟩ := w
    -- Either both have ended, in the same way, or none has.
    obtain rfl | ⟨runs, runs'⟩ := Phase.Blurs.ends place
    · cases phase with
      | exited => exact left.note _ _
      | panicked message => exact left.note _ _
      | _ => exact (left.note _ _).modify
    · cases before <;> cases runs <;> cases phase <;> cases runs' <;> exact (left.note _ _).modify

end Kin

end MailRound.Poller
