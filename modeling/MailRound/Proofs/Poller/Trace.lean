import MailRound.Proofs.Poller.Moves

namespace MailRound.Poller

variable {ω φ : Type}

namespace Worker

/-- While an attempt connects or fetches, its calls are the latest ones. -/
def Trails (calls : List Call) (w : Worker φ) : Prop :=
  match w.phase with
  | .connecting c _ => [.create c.account, .connect c.account] <:+ calls
  | .fetching c _ =>
    ∃ criteria, [.create c.account, .connect c.account, .fetch c.account criteria] <:+ calls
  | _ => True

variable (m : Mailboxes ω φ) (s : Shared ω) (w : Worker φ) (c : Cycle)

theorem afterAttempt_trails (calls : List Call) (result : Attempt) :
    (afterAttempt s w c result).2.Trails calls := by
  unfold afterAttempt
  dsimp only
  split
  · split <;> trivial
  · trivial
  · trivial
  · split <;> trivial

theorem beginAttempt_trails :
    (beginAttempt m s w c).2.Trails (beginAttempt m s w c).1.calls := by
  unfold beginAttempt
  dsimp only
  split
  · trivial
  · split
    · trivial
    · split
      · exact afterAttempt_trails _ w c _ _
      · exact ⟨s.calls, by simp [Shared.launch, Shared.record, Shared.inform, Shared.note]⟩

theorem afterFetch_trails (calls : List Call) (fetcher : φ) (result : Outcome (List Message)) :
    (afterFetch m s w c fetcher result).2.Trails calls := by
  unfold afterFetch
  split
  · trivial
  · trivial
  · dsimp only
    split
    · trivial
    · split <;> trivial

variable {m s w}

theorem step_trails {r : Step ω φ} (trails : w.Trails s.calls) (h : w.step m s = some r) :
    r.2.Trails r.1.calls := by
  cases step_cases h with
  | begins phase go signal =>
    unfold beginCycle
    split
    · trivial
    · exact beginAttempt_trails m _ _ _
  | connects c f phase due result back =>
    cases result with
    | error why => trivial
    | ok _ =>
      obtain ⟨before, made⟩ : [.create c.account, .connect c.account] <:+ s.calls := by
        simpa [Trails, phase] using trails
      exact ⟨c.criteria s, before, by simp [afterConnect, Shared.launch, Shared.record, ← made]⟩
  | fetches c f phase due result back => exact afterFetch_trails m s w c _ _ _
  | disconnects c f result phase due answer back => exact afterAttempt_trails s w c _ _
  | again c due phase come => exact beginAttempt_trails m s w c
  | _ => trivial

theorem cycle?_congr {v : Worker φ} (h : v.phase = w.phase) : v.cycle? = w.cycle? := by
  simp only [cycle?, h]

theorem Trails.congr {v : Worker φ} {calls : List Call} (trails : v.Trails calls)
    (h : v.phase = w.phase) : w.Trails calls := by
  simpa only [Trails, h] using trails

/-- Where a turn ends inside a cycle, it has begun that cycle or has gone on with it. -/
theorem Turn.inside {r : Step ω φ} {made : List Call} {put : List Message} {d : Cycle}
    (turn : Turn s w made put r) (h : r.2.cycle? = some d) :
    w.begins? s = some d.account ∧ d.generation = s.cycle ∨
      ∃ e, w.cycle? = some e ∧ e.account = d.account ∧ e.generation = d.generation := by
  have goes {v : Worker φ} {e : Cycle} (goes : Goes s v e r) :
      d.account = e.account ∧ d.generation = e.generation := by
    cases goes with
    | rests self flag => simp [self, cycle?] at h
    | goesOn phase e' self inside account generation flag =>
      obtain rfl := Option.some.inj (inside.symm.trans h)
      exact ⟨account, generation⟩
  cases turn with
  | wakes fresh self flag quiet empty => simp [self, cycle?] at h
  | exits idle why self flag quiet empty => simp [self, cycle?] at h
  | skips idle go signal unselected self flag quiet empty => simp [self, cycle?] at h
  | begins account selected h' calls empty =>
    obtain ⟨same, newest⟩ := goes h'
    exact .inl ⟨same ▸ selected, newest⟩
  | lands e batch fetched h' taken =>
    obtain ⟨same, newest⟩ := goes h'
    exact .inr ⟨e, cycle?_of_batch? fetched, same.symm, newest.symm⟩
  | goesOn e inside other h' calls unmarked empty =>
    obtain ⟨same, newest⟩ := goes h'
    exact .inr ⟨e, inside, same.symm, newest.symm⟩
  | dies e inside other message self flag quiet empty => simp [self, cycle?] at h

/-- Messages are put only when a batch of the present selection comes in. -/
theorem Turn.brings {r : Step ω φ} {made : List Call} {put : List Message} {x : Message}
    (turn : Turn s w made put r) (new : x ∈ put) : ∃ d batch, w.batch? s = some (d, batch) ∧
      s.cycle = d.generation ∧ put = s.delivered.fresh batch := by
  cases turn with
  | wakes fresh self flag quiet empty => simp [empty] at new
  | exits idle why self flag quiet empty => simp [empty] at new
  | skips idle go signal unselected self flag quiet empty => simp [empty] at new
  | begins account selected goes calls empty => simp [empty] at new
  | lands d batch fetched goes taken =>
    obtain ⟨newest, filled, -⟩ | ⟨-, empty, -⟩ := taken
    · exact ⟨d, batch, fetched, newest, filled⟩
    · simp [empty] at new
  | goesOn d inside other goes calls unmarked empty => simp [empty] at new
  | dies d inside other message self flag quiet empty => simp [empty] at new

end Worker

namespace System

variable {m : Mailboxes ω φ} {start s s' : System ω φ} {h : History ω φ}

/-- The cycle that the active worker is in is the newest one of the history, and its generation
tells how often it was disturbed since. -/
def Traced (h : History ω φ) (s : System ω φ) : Prop :=
  ∀ w c, s.poller.active? = some w → w.cycle? = some c → h.running? = some c.account ∧
    s.shared.cycle = c.generation + h.sinceBegun.countP (·.interrupts) ∧ w.Trails s.shared.calls

theorem begins?_of_not_work {t : Transition ω φ} (other : t.move ≠ .work) : t.begins? = none := by
  unfold Transition.begins?
  split
  · contradiction
  · rfl

theorem running?_cons (t : Transition ω φ) (h : History ω φ) :
    History.running? (t :: h) = t.begins?.or h.running? := by
  cases begins : t.begins? <;> simp [History.running?, begins]

theorem sinceBegun_cons (t : Transition ω φ) (h : History ω φ) :
    History.sinceBegun (t :: h) = if t.begins?.isSome then [] else t :: h.sinceBegun := by
  cases begins : t.begins? <;> simp [History.sinceBegun, begins]

theorem Traced.outside {t : Transition ω φ} (traced : Traced h t.before) (outside : Outside t)
    (other : t.move ≠ .work) : Traced (t :: h) t.after := by
  intro w c active inside
  obtain ⟨v, was, same⟩ := outside.inside w c active inside
  obtain ⟨running, cycle, trails⟩ := traced v c was ((Worker.cycle?_congr same).trans inside)
  have none := begins?_of_not_work other
  refine ⟨?_, ?_, ?_⟩
  · rw [running?_cons, none]
    exact running
  -- The generation grows exactly with the moves that interrupt.
  · have count : History.sinceBegun (t :: h) = t :: h.sinceBegun := by simp [sinceBegun_cons, none]
    rw [outside.cycle, cycle, count, List.countP_cons]
    cases t.interrupts <;> simp [Nat.add_assoc]
  · rw [outside.calls]
    exact trails.congr same

theorem Traced.work {p : Poller ω φ} (sound : s.Sound) (traced : Traced h s)
    (goes : s.poller.stepWorker m = some p) :
    Traced (⟨.work, s, { s with poller := p }⟩ :: h) { s with poller := p } := by
  obtain ⟨w, r, made, put, turned⟩ := sound.turned goes
  obtain ⟨active, after, shared⟩ := turned.worked.active
  intro v c now inside
  obtain rfl := Option.some.inj (after.symm.trans now)
  have cycle : p.shared.cycle = s.shared.cycle := turned.effect.stays.cycle
  have still (trails : w.Trails s.shared.calls) : r.2.Trails p.shared.calls := by
    rw [shared]
    exact Worker.step_trails trails turned.step
  -- The cycle has begun with this step, or the worker was in it before.
  obtain ⟨begins, newest⟩ | ⟨e, within, account, generation⟩ := turned.turn.inside inside
  · have idle : w.Trails s.shared.calls := by
      simp [Worker.Trails, (Worker.begins?_eq_some.1 begins).1]
    refine ⟨?_, ?_, still idle⟩
    · rw [running?_cons, turned.begins?, begins]
      rfl
    · rw [sinceBegun_cons, turned.begins?, begins]
      exact cycle.trans newest.symm
  · obtain ⟨running, counted, trails⟩ := traced w e active within
    have none := Worker.begins?_of_cycle? (s := s.shared) within
    refine ⟨?_, ?_, still trails⟩
    · rw [running?_cons, turned.begins?, none, ← account]
      exact running
    · rw [sinceBegun_cons, turned.begins?, none, ← generation]
      exact cycle.trans counted

theorem Traced.step {move : Move} (sound : s.Sound) (traced : Traced h s)
    (step : Step m s move s') : Traced (⟨move, s, s'⟩ :: h) s' := by
  by_cases work : move = .work
  · subst work
    cases step with
    | work goes => exact traced.work sound goes
  · exact traced.outside (step.outside sound work) work

theorem Run.traced (run : Run m start h s) (sound : start.Sound)
    (still : start.poller.active? = none) : Traced h s := by
  induction run with
  | nil =>
    intro w c active
    rw [still] at active
    cases active
  | cons past step ih => exact ih.step (past.sound sound) step

end System

end MailRound.Poller
