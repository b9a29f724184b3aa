import MailRound.Proofs.Lifecycle.Effort
import MailRound.Proofs.Round.Arrival

namespace MailRound.Poller

variable {ω φ : Type}

/-- A bound on the steps of the installed worker, as long as no account is selected. -/
def load (p : Poller ω φ) : Nat :=
  match p.worker with
  | some w => w.steps p.shared.defaults p.shared.cursor.current?
  | none => 0

def delay (p : Poller ω φ) : Nat := (p.worker.bind Worker.due?).getD 0 - p.shared.now

/-- One poller follows another: its worker has made steps, or time has passed at most. -/
structure Follows (p p' : Poller ω φ) : Prop where
  cursor : p'.shared.cursor = p.shared.cursor
  later : p.shared.now ≤ p'.shared.now
  nearer : load p' < load p ∨ load p' = load p ∧ p'.worker = p.worker

theorem Follows.refl (p : Poller ω φ) : Follows p p := ⟨rfl, Nat.le_refl _, .inr ⟨rfl, rfl⟩⟩

theorem Follows.trans {p p' p'' : Poller ω φ} (h : Follows p p') (h' : Follows p' p'') :
    Follows p p'' := by
  refine ⟨h'.cursor.trans h.cursor, Nat.le_trans h.later h'.later, ?_⟩
  obtain less | ⟨same, here⟩ := h.nearer
  · obtain less' | ⟨same', -⟩ := h'.nearer
    · exact .inl (by omega)
    · exact .inl (by omega)
  · obtain less' | ⟨same', here'⟩ := h'.nearer
    · exact .inl (by omega)
    · exact .inr ⟨same'.trans same, here'.trans here⟩

section Waits

variable {defaults : Polling} {roster : Roster} {scripts : Script.Scripts}
  {clock : Calendar.Instant} {h : History Script.Scripts Script.Step}
  {s s' : System Script.Scripts Script.Step} {spot : Spot}

abbrev Rounds (roster : Roster) (defaults : Polling) (scripts : Script.Scripts)
    (clock : Calendar.Instant) :=
  Loop Script.mailboxes (System.new roster defaults scripts clock)

theorem Loop.sound (loop : Rounds roster defaults scripts clock h s spot) : s.Sound :=
  loop.run.sound (System.sound_new roster defaults scripts clock)

theorem load_eq {w : Worker Script.Step} {plan : List Account} {final : Plain.Mail}
    (way : OnWay defaults plan final h s spot w) :
    load s.poller = w.steps defaults s.shared.cursor.current? := by
  rw [load, way.here, ← way.settings]

/-- How a run of the workers ends: nothing can go on, and it is done or its time is up. -/
structure Halts (roster : Roster) (defaults : Polling) (scripts : Script.Scripts)
    (clock : Calendar.Instant) (done : Poller Script.Scripts Script.Step → Bool) (deadline : Nat)
    (h : History Script.Scripts Script.Step) (p p' : Poller Script.Scripts Script.Step) : Prop where
  loop : ∃ h', Rounds roster defaults scripts clock h' ⟨p', none⟩ .waiting ∧ h'.handed = h.handed
  follows : Follows p p'
  stuck : p'.stepWorker Script.mailboxes = none
  ended : done p' = true ∨ deadline ≤ p'.shared.now

theorem Loop.elapses {later : History Script.Scripts Script.Step} (calm : Script.Calm scripts)
    (loop : Rounds roster defaults scripts clock h s .waiting)
    (run : System.Run Script.mailboxes s later s')
    (beside : ∀ t ∈ later, t.move.beside = true) :
    Rounds roster defaults scripts clock (later ++ h) s' .waiting ∧
      History.handed (later ++ h) = h.handed ∧ Follows s.poller s'.poller := by
  induction run with
  | nil => exact ⟨loop, rfl, .refl _⟩
  | @cons later s₁ move s₂ past step ih =>
    obtain ⟨outer, before⟩ := List.forall_mem_cons.1 beside
    obtain ⟨loop₁, handed, follows⟩ := ih before
    have nothing : Transition.handed ⟨move, s₁, s₂⟩ = [] := by
      cases move <;> first | rfl | cases outer
    refine ⟨.beside loop₁ (by simp) outer step, (handed_cons_of_nil nothing).trans handed,
      follows.trans ?_⟩
    cases step with
    | work goes =>
      obtain ⟨w, way⟩ := (loop₁.arrives calm).1 (by simp)
      obtain ⟨w', way', -, fewer⟩ := way.work loop₁.sound goes
      obtain ⟨_, _, _, _, turned⟩ := loop₁.sound.turned goes
      have stays := turned.effect.stays
      refine ⟨stays.cursor, Nat.le_of_eq stays.now.symm, .inl ?_⟩
      have lighter := load_eq way'
      rw [load_eq way]
      dsimp only at lighter
      rwa [lighter]
    | pass ms => exact ⟨rfl, Nat.le_add_right _ _, .inr ⟨rfl, rfl⟩⟩
    | setClock t => exact ⟨rfl, Nat.le_refl _, .inr ⟨rfl, rfl⟩⟩
    | tell event => exact ⟨rfl, Nat.le_refl _, .inr ⟨rfl, rfl⟩⟩
    | _ => cases outer

theorem run_halts (calm : Script.Calm scripts) (done : Poller Script.Scripts Script.Step → Bool)
    (deadline : Nat) (loop : Rounds roster defaults scripts clock h s .waiting) :
    Halts roster defaults scripts clock done deadline h s.poller
      (s.poller.run Script.mailboxes done deadline) := by
  obtain ⟨w, way⟩ := (loop.arrives calm).1 (by simp)
  obtain ⟨⟨later, run, beside⟩, stuck, ended⟩ :=
    System.run_settles (m := Script.mailboxes) loop.sound
    (loop.run.listed (System.sound_new _ _ _ _) (System.listed_new _ _ _ _)) done deadline
  obtain ⟨loop', handed, follows⟩ := loop.elapses calm run beside
  have free : (s.update (·.run Script.mailboxes done deadline)) =
      ⟨s.poller.run Script.mailboxes done deadline, none⟩ := System.update_of_free way.free _
  rw [free] at loop'
  exact ⟨⟨_, loop', handed⟩, follows, stuck, ended⟩

structure Outlasts (p p' : Poller Script.Scripts Script.Step) (limit : Nat) : Prop where
  follows : Follows p p'
  later : p.shared.now + limit ≤ p'.shared.now
  waits : ∃ w t, p'.worker = some w ∧ w.due? = some t ∧ p'.shared.now < t

/-- A wait comes back when the account is done, or when its time is up and the worker waits too. -/
theorem wait_cases (calm : Script.Calm scripts)
    (loop : Rounds roster defaults scripts clock h s .waiting) (limit : Nat) :
    (∃ h' p', s.poller.wait Script.mailboxes limit = (true, p') ∧
        Rounds roster defaults scripts clock h' ⟨p', none⟩ .closing ∧ h'.handed = h.handed ∧
        Follows s.poller p') ∨
      ∃ h' p', s.poller.wait Script.mailboxes limit = (false, p') ∧
        Rounds roster defaults scripts clock h' ⟨p', none⟩ .looking ∧ h'.handed = h.handed ∧
        Outlasts s.poller p' limit := by
  obtain ⟨w, way⟩ := (loop.arrives calm).1 (by simp)
  obtain ⟨p, stopping⟩ := s
  obtain rfl : stopping = none := way.free
  unfold wait
  cases flag : p.shared.processing with
  | false =>
    exact .inl ⟨_, p, rfl, .completes loop (.waitEnds rfl flag), handed_cons_of_nil rfl, .refl p⟩
  | true =>
    have halts := run_halts calm (fun p => !p.shared.processing) (p.shared.now + limit) loop
    dsimp only at halts ⊢
    generalize p.run Script.mailboxes (fun p => !p.shared.processing) (p.shared.now + limit) = p'
      at halts ⊢
    obtain ⟨⟨h', loop', handed⟩, follows, stuck, ended⟩ := halts
    cases flag' : p'.shared.processing with
    | false =>
      exact .inl ⟨_, p', rfl, .completes loop' (.waitEnds rfl flag'),
        (handed_cons_of_nil rfl).trans handed, follows⟩
    | true =>
      obtain ⟨w', way'⟩ := (loop'.arrives calm).1 (by simp)
      have still := loop'.sound.stuck.1 stuck w' (active?_of_worker way'.here)
      have alive := Worker.finished_of_scripted way'.scripted
        (loop'.sound.installed w' way'.here).here
      refine .inr ⟨_, _, rfl, .timesOut limit loop' (.waitTimesOut limit rfl flag'),
        (handed_cons_of_nil rfl).trans handed, ⟨follows.cursor, follows.later, follows.nearer⟩,
        ?_, ?_⟩
      · obtain done | up := ended
        · simp [flag'] at done
        · exact up
      · obtain ⟨t, due, later⟩ | ⟨outside, unsignalled⟩ := Worker.waits_of_step_none still alive
        · exact ⟨w', t, way'.here, due, later⟩
        · have busy := way'.busy flag'
          rw [outside, unsignalled] at busy
          simp at busy

theorem sleep_follows (calm : Script.Calm scripts)
    (loop : Rounds roster defaults scripts clock h s .waiting) (ms : Nat) :
    (∃ h', Rounds roster defaults scripts clock h' ⟨s.poller.sleep Script.mailboxes ms, none⟩
        .waiting ∧ h'.handed = h.handed) ∧
      Follows s.poller (s.poller.sleep Script.mailboxes ms) ∧
      s.poller.shared.now + ms ≤ (s.poller.sleep Script.mailboxes ms).shared.now := by
  obtain ⟨loop', follows, -, ended⟩ :=
    run_halts calm (fun _ => false) (s.poller.shared.now + ms) loop
  obtain done | up := ended
  · cases done
  · exact ⟨loop', follows, up⟩

end Waits

end MailRound.Poller
