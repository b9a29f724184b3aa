import MailRound.Proofs.Lifecycle.Patience
import MailRound.Proofs.Twins.Moves

namespace MailRound.Poller

variable {ω φ : Type} {d : Offset} {m : Mailboxes ω φ} {p p' q : Poller ω φ}

theorem Phase.woken_woken (phase : Phase φ) : phase.woken.woken = phase.woken := by
  cases phase <;> rfl

namespace Worker

def isFresh (w : Worker φ) : Bool :=
  match w.phase with
  | .fresh => true
  | _ => false

def woken (w : Worker φ) : Worker φ := { w with phase := w.phase.woken }

theorem woken_awake (w : Worker φ) : w.woken.phase ≠ .fresh := by
  obtain ⟨serial, phase, signal, closed, stop⟩ := w
  cases phase <;> simp [woken, Phase.woken]

theorem Twins.woken_left {w w' : Worker φ} (h : w.Twins d w') : w.woken.Twins d w' := by
  obtain ⟨phase, place, rfl⟩ := h
  exact ⟨phase, place.trans (congrArg _ w.phase.woken_woken.symm), rfl⟩

theorem Twins.woken_right {w w' : Worker φ} (h : w.Twins d w') : w.Twins d w'.woken := by
  obtain ⟨phase, place, rfl⟩ := h
  exact ⟨phase.woken, phase.woken_woken.trans place, rfl⟩

end Worker

def rouse (p : Poller ω φ) : Poller ω φ :=
  { p with
    shared := p.shared.inform .debug "Email poller worker entering idle state"
    worker := p.worker.map (·.woken)
    leaving := p.leaving.map (·.woken) }

def Awake (p : Poller ω φ) : Prop := ∀ w ∈ p.worker.toList ++ p.leaving, w.phase ≠ .fresh

theorem rouse_awake (p : Poller ω φ) : p.rouse.Awake := by
  intro w among
  obtain here | left := List.mem_append.1 among
  · obtain ⟨v, -, rfl⟩ := Option.map_eq_some_iff.1 (Option.mem_toList.1 here)
    exact v.woken_awake
  · obtain ⟨v, -, rfl⟩ := List.mem_map.1 left
    exact v.woken_awake

theorem Twins.rouse_left (h : p.Twins d p') : p.rouse.Twins d p' := by
  obtain ⟨log, shared⟩ := h.shared
  refine ⟨h.accounts, ⟨log, shared⟩, ?_, ?_, h.spawned⟩
  · obtain ⟨here, there⟩ | ⟨w, phase, here, there, place⟩ := h.workers
    · simp [rouse, here, there]
    · simpa [rouse, here, there] using Worker.Twins.woken_left ⟨phase, place, rfl⟩
  · exact List.forall₂_map_left_iff.2 (h.leaving.imp fun _ _ => Worker.Twins.woken_left)

theorem Twins.rouse_right (h : p.Twins d p') : p.Twins d p'.rouse := by
  obtain ⟨log, shared⟩ := h.shared
  refine ⟨h.accounts, ⟨p'.rouse.shared.log, ?_⟩, ?_, ?_, h.spawned⟩
  · rw [rouse, shared]
    rfl
  · obtain ⟨here, there⟩ | ⟨w, phase, here, there, place⟩ := h.workers
    · simp [rouse, here, there]
    · simpa [rouse, here, there] using Worker.Twins.woken_right ⟨phase, place, rfl⟩
  · exact List.forall₂_map_right_iff.2 (h.leaving.imp fun _ _ => Worker.Twins.woken_right)

theorem map_ahead_of_awake {ws ws' : List (Worker φ)} (h : List.Forall₂ (Worker.Twins d) ws ws')
    (awake : ∀ w ∈ ws, w.phase ≠ .fresh) (awake' : ∀ w ∈ ws', w.phase ≠ .fresh) :
    ws' = ws.map (·.ahead d) := by
  induction h with
  | nil => rfl
  | cons twins rest ih =>
    obtain ⟨first, others⟩ := List.forall_mem_cons.1 awake
    obtain ⟨first', others'⟩ := List.forall_mem_cons.1 awake'
    rw [twins.leads first first', ih others others', List.map_cons]

/-- With everybody awake, one is just so far ahead. -/
theorem Twins.leads (h : p.Twins d p') (awake : p.Awake) (awake' : p'.Awake) : p.Leads d p' := by
  obtain ⟨log, shared⟩ := h.shared
  have here : p'.worker = p.worker.map (·.ahead d) := by
    obtain ⟨here, there⟩ | ⟨w, phase, here, there, place⟩ := h.workers
    · rw [here, there, Option.map_none]
    · have first := awake w (by simp [here])
      have first' := awake' _ (List.mem_append_left _ (by rw [there]; exact List.mem_cons_self ..))
      rw [here, there, Worker.Twins.leads ⟨phase, place, rfl⟩ first first', Option.map_some]
  have there : p'.leaving = p.leaving.map (·.ahead d) :=
    map_ahead_of_awake h.leaving (fun w among => awake w (List.mem_append_right _ among))
      (fun w among => awake' w (List.mem_append_right _ among))
  refine ⟨log, ?_⟩
  rw [Poller.ahead, ← shared, ← here, ← there, ← h.spawned, ← h.accounts]

namespace System

variable {s s' : System ω φ}

/-- The active worker is the only one, so everybody is awake unless it has still to wake up. -/
theorem Sound.awake_iff (sound : s.Sound) :
    s.poller.Awake ↔ s.poller.active?.any (·.isFresh) = false := by
  have fresh (w : Worker φ) : w.phase ≠ .fresh ↔ w.isFresh = false := by
    unfold Worker.isFresh
    cases w.phase <;> simp
  unfold Awake
  rw [sound.crew]
  cases s.poller.active? with
  | none => simp
  | some w => simp [fresh]

theorem Sound.rouses (sound : s.Sound) (fresh : s.poller.active?.any (·.isFresh) = true) :
    s.poller.stepWorker m = some s.poller.rouse := by
  have crew := sound.crew
  obtain ⟨w, active, fresh⟩ := (Option.any_eq_true _ _).1 fresh
  have phase : w.phase = .fresh := by
    unfold Worker.isFresh at fresh
    cases phase : w.phase <;> simp_all
  rw [active] at crew
  cases here : s.poller.worker with
  | some v =>
    obtain ⟨rfl, none⟩ : v = w ∧ s.poller.leaving = [] := by simpa [here] using crew
    simp [stepWorker, stepInstalled, here, Worker.step, phase, rouse, none, Worker.woken,
      Phase.woken]
  | none =>
    have only : s.poller.leaving = [w] := by simpa [here] using crew
    simp [stepWorker, stepInstalled, stepFirst, here, only, Worker.step, phase, rouse,
      Worker.woken, Phase.woken]

end System

theorem runUntil_of_rests {done : Poller ω φ → Bool} {deadline fuel : Nat}
    (stuck : (runUntil m done deadline fuel p).stepWorker m = none)
    (ended : done (runUntil m done deadline fuel p) = true ∨
      deadline ≤ (runUntil m done deadline fuel p).shared.now) (more : Nat) :
    runUntil m done deadline (fuel + more) p = runUntil m done deadline fuel p := by
  induction fuel generalizing p with
  | zero => exact runUntil_of_ended stuck ended _
  | succ fuel ih =>
    rw [Nat.add_right_comm]
    cases goes : p.stepWorker m with
    | some q =>
      rw [runUntil_of_step goes] at stuck ended ⊢
      rw [runUntil_of_step goes]
      exact ih stuck ended
    | none =>
      by_cases rests : done p = true ∨ deadline ≤ p.shared.now
      · rw [runUntil_of_ended goes rests, runUntil_of_ended goes rests]
      · rw [runUntil_of_waits goes rests] at stuck ended ⊢
        rw [runUntil_of_waits goes rests]
        exact ih stuck ended

namespace System

variable {s s' : System ω φ}

theorem Sound.runUntil_fuel (sound : s.Sound) (done : Poller ω φ → Bool) (deadline : Nat)
    {fuel fuel' : Nat} (enough : 2 * s.poller.effort + 2 ≤ fuel)
    (enough' : 2 * s.poller.effort + 2 ≤ fuel') :
    runUntil m done deadline fuel s.poller = runUntil m done deadline fuel' s.poller := by
  obtain ⟨stuck, ended⟩ := sound.runUntil_rests (m := m) done deadline fuel (.inl enough)
  obtain ⟨stuck', ended'⟩ := sound.runUntil_rests (m := m) done deadline fuel' (.inl enough')
  rw [← runUntil_of_rests stuck ended fuel', Nat.add_comm,
    runUntil_of_rests stuck' ended' fuel]

/-- A run on one thread begins with the waking up of whoever has still to do so. -/
theorem Sound.runUntil_awake (sound : s.Sound) (done : Poller ω φ → Bool) (deadline : Nat)
    {fuel : Nat} (enough : 2 * s.poller.effort + 2 ≤ fuel) :
    ∃ q, q.Awake ∧ (q = s.poller ∨ q = s.poller.rouse) ∧ ∃ least, ∀ fuel', least ≤ fuel' →
      runUntil m done deadline fuel s.poller = runUntil m done deadline fuel' q := by
  cases fresh : s.poller.active?.any (·.isFresh) with
  | false =>
    exact ⟨_, sound.awake_iff.2 fresh, .inl rfl, _, fun fuel' =>
      sound.runUntil_fuel done deadline enough⟩
  | true =>
    have goes := sound.rouses (m := m) fresh
    have less := sound.lessens goes
    refine ⟨_, rouse_awake _, .inr rfl, 2 * s.poller.rouse.effort + 2, fun fuel' enough' => ?_⟩
    obtain ⟨fuel, rfl⟩ := Nat.exists_eq_add_of_le' (Nat.le_trans (by omega : 1 ≤ _) enough)
    rw [runUntil_of_step goes]
    exact (sound.work goes).runUntil_fuel done deadline (by dsimp only; omega) enough'

/-- Two runs on one thread come to twins, if they are done together. -/
theorem Sound.runUntil_twins {done done' : Poller ω φ → Bool} {deadline fuel fuel' : Nat}
    (sound : s.Sound) (sound' : s'.Sound) (twins : s.poller.Twins d s'.poller)
    (blind : ∀ p p' : Poller ω φ, p.Twins d p' → done' p' = done p)
    (enough : 2 * s.poller.effort + 2 ≤ fuel) (enough' : 2 * s'.poller.effort + 2 ≤ fuel') :
    (runUntil m done deadline fuel s.poller).Twins d
      (runUntil m done' (d.now + deadline) fuel' s'.poller) := by
  obtain ⟨q, awake, came, least, same⟩ := sound.runUntil_awake (m := m) done deadline enough
  obtain ⟨q', awake', came', least', same'⟩ :=
    sound'.runUntil_awake (m := m) done' (d.now + deadline) enough'
  have left : q.Twins d s'.poller := by
    obtain rfl | rfl := came
    · exact twins
    · exact twins.rouse_left
  have both : q.Twins d q' := by
    obtain rfl | rfl := came'
    · exact left
    · exact left.rouse_right
  rw [same _ (Nat.le_max_left least least'), same' _ (Nat.le_max_right least least')]
  exact (runUntil_ahead (fun p log => blind p _ (Leads.twins ⟨log, rfl⟩))
    (both.leads awake awake')).twins

theorem Sound.run_twins (sound : s.Sound) (listed : s.Listed) (sound' : s'.Sound)
    (listed' : s'.Listed) (twins : s.poller.Twins d s'.poller) (done done' : Poller ω φ → Bool)
    (blind : ∀ p p' : Poller ω φ, p.Twins d p' → done' p' = done p) (deadline : Nat) :
    (s.poller.run m done deadline).Twins d (s'.poller.run m done' (d.now + deadline)) :=
  sound.runUntil_twins sound' twins blind listed.effort_le listed'.effort_le

theorem Sound.wait_twins (sound : s.Sound) (listed : s.Listed) (sound' : s'.Sound)
    (listed' : s'.Listed) (twins : s.poller.Twins d s'.poller) (limit : Nat) :
    (s'.poller.wait m limit).1 = (s.poller.wait m limit).1 ∧
      (s.poller.wait m limit).2.Twins d (s'.poller.wait m limit).2 := by
  cases busy : s.poller.shared.processing with
  | false =>
    have busy' := twins.processing.trans busy
    unfold wait
    rw [busy, busy']
    exact ⟨rfl, twins⟩
  | true =>
    have busy' := twins.processing.trans busy
    have ran := sound.run_twins (m := m) listed sound' listed' twins (!·.shared.processing)
      (!·.shared.processing) (fun p p' h => congrArg (!·) h.processing)
      (s.poller.shared.now + limit)
    rw [← Nat.add_assoc, ← twins.now] at ran
    rw [wait_of_busy busy, wait_of_busy busy']
    dsimp only
    rw [ran.processing]
    split
    · exact ⟨rfl, ran.note _ _⟩
    · exact ⟨rfl, ran⟩

theorem Sound.sleep_twins (sound : s.Sound) (listed : s.Listed) (sound' : s'.Sound)
    (listed' : s'.Listed) (twins : s.poller.Twins d s'.poller) (ms : Nat) :
    (s.poller.sleep m ms).Twins d (s'.poller.sleep m ms) := by
  have ran := sound.run_twins (m := m) listed sound' listed' twins (fun _ => false)
    (fun _ => false) (fun _ _ _ => rfl) (s.poller.shared.now + ms)
  rwa [← Nat.add_assoc, ← twins.now] at ran

theorem hasLeft_twins (h : p.Twins d p') (serial : Nat) :
    hasLeft (d.serial + serial) p' = hasLeft serial p := by
  have left := h.leaving
  unfold hasLeft
  generalize p.leaving = ws at left
  generalize p'.leaving = ws' at left
  induction left with
  | nil => rfl
  | cons twins rest ih =>
    rw [List.all_cons, List.all_cons, ih, twins.serial, twins.finished]
    simp

theorem stop_of_worker {w : Worker φ} (here : p.worker = some w) :
    p.stop m = (p.takeWorker.2.retire.run m (hasLeft w.serial)
      (p.shared.now + gracePeriod)).release w.serial := by
  simp only [Poller.stop, Poller.takeWorker, here]
  rfl

theorem Sound.stop_twins (sound : s.Sound) (listed : s.Listed) (sound' : s'.Sound)
    (listed' : s'.Listed) (twins : s.poller.Twins d s'.poller) (free : s.stopping = none)
    (free' : s'.stopping = none) : (s.poller.stop m).Twins d (s'.poller.stop m) := by
  obtain ⟨here, there⟩ | ⟨w, phase, here, there, place⟩ := twins.workers
  · simpa [Poller.stop, Poller.takeWorker, here, there] using twins
  · have taken := Step.stop (m := m) free here
    have taken' := Step.stop (m := m) free' there
    have ran := (sound.step taken).run_twins (m := m) (taken.listed sound listed)
      (sound'.step taken') (taken'.listed sound' listed') twins.takeWorker.retire
      (hasLeft w.serial) (hasLeft (d.serial + w.serial))
      (fun p p' h => hasLeft_twins h w.serial) (s.shared.now + gracePeriod)
    rw [← Nat.add_assoc, ← twins.now] at ran
    rw [stop_of_worker here, stop_of_worker there]
    exact ran.release w.serial

/-- A run that takes the flag down comes to what a wait without a limit comes back to. -/
theorem Sound.awaits_of_run (sound : s.Sound) (busy : s.shared.processing = true) {deadline : Nat}
    (down : (s.poller.run m (fun p => !p.shared.processing) deadline).shared.processing = false) :
    Awaits m s.poller (s.poller.run m (fun p => !p.shared.processing) deadline) :=
  (sound.awaits_iff (sound.sees_runUntil deadline _ (.inl busy))).2 (.done down)

/-- A wait without a limit comes back in both or in neither. -/
theorem Sound.awaits_twins (sound : s.Sound) (listed : s.Listed) (sound' : s'.Sound)
    (listed' : s'.Listed) (twins : s.poller.Twins d s'.poller) :
    (∀ q, Awaits m s.poller q → ∃ q', Awaits m s'.poller q' ∧ q.Twins d q') ∧
      ∀ q', Awaits m s'.poller q' → ∃ q, Awaits m s.poller q ∧ q.Twins d q' := by
  cases busy : s.shared.processing with
  | false =>
    have busy' : s'.shared.processing = false := twins.processing.trans busy
    refine ⟨fun q awaits => ?_, fun q' awaits => ?_⟩
    · obtain rfl := awaits.unique (.done busy)
      exact ⟨_, .done busy', twins⟩
    · obtain rfl := awaits.unique (.done busy')
      exact ⟨_, .done busy, twins⟩
  | true =>
    have busy' : s'.shared.processing = true := twins.processing.trans busy
    have ran := sound.run_twins (m := m) listed sound' listed' twins (!·.shared.processing)
      (!·.shared.processing) (fun p p' h => congrArg (!·) h.processing)
    refine ⟨fun q awaits => ?_, fun q' awaits => ?_⟩
    · have same := sound.run_awaited listed busy awaits (sound.later awaits.sees)
      rw [if_pos (Nat.le_refl _)] at same
      have came := ran q.shared.now
      rw [same] at came
      exact ⟨_, sound'.awaits_of_run busy' (came.processing.trans awaits.down), came⟩
    -- The later one has come that much further.
    · have later := sound'.later awaits.sees
      obtain ⟨t, moment⟩ : ∃ t, q'.shared.now = d.now + t := by
        have now : s'.shared.now = d.now + s.shared.now := twins.now
        exact Nat.exists_eq_add_of_le (by omega)
      have same := sound'.run_awaited listed' busy' awaits later
      rw [if_pos (Nat.le_refl _), moment] at same
      have came := ran t
      rw [same] at came
      exact ⟨_, sound.awaits_of_run busy (came.processing.symm.trans awaits.down), came⟩

end System

end MailRound.Poller
