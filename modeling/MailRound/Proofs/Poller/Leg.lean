import MailRound.Proofs.Poller.WorkerStep

namespace MailRound.Poller

variable {ω φ : Type}

def Attempt.failure? : Attempt → Option Failure
  | .failed why => some why
  | _ => none

/-- After the attempt there may be another one. -/
def Attempt.Counts : Attempt → Prop
  | .superseded => False
  | .failed (.unknownProvider _) => False
  | _ => True

namespace Worker

/-- Where an attempt leads to when there are to be `most` of them. -/
inductive Ends (most : Nat) (c : Cycle) (result : Attempt) : Phase φ → Prop
  | pauses (counts : result.Counts) (left : c.attempts + 1 < most) (due : Nat) :
    Ends most c result (.pausing { c with attempts := c.attempts + 1 } due)
  | spends (counts : result.Counts) (spent : most ≤ c.attempts + 1) : Ends most c result .idle
  | drops (late : result = .superseded) : Ends most c result .idle
  | skips (tag : String) (unknown : result = .failed (.unknownProvider tag)) :
    Ends most c result .idle

/-- How an attempt begins: not at all, without a fetcher, or with a connection. -/
inductive Tries (m : Mailboxes ω φ) (s : Shared ω) (w : Worker φ) (c : Cycle) :
    List Call → Phase φ → Prop
  | ceases (why : (c.polling s).maxPollCount ≤ c.attempts ∨ w.stop = true ∨ s.cycle ≠ c.generation) :
    Tries m s w c [] .idle
  | refused {phase : Phase φ} (left : c.attempts < (c.polling s).maxPollCount) (why : Failure)
    (answer : (m.create s.world c.account).2.2 = .error why)
    (ends : Ends (c.polling s).maxPollCount c (.failed why) phase) :
    Tries m s w c [.create c.account] phase
  | connects (left : c.attempts < (c.polling s).maxPollCount) (fetcher : φ)
    (answer : (m.create s.world c.account).2.2 = .ok fetcher) (flight : Flight φ Unit) :
    Tries m s w c [.create c.account, .connect c.account] (.connecting c flight)

/-- One step, by the phase that the worker is in and by what its call comes back with. -/
inductive Leg (m : Mailboxes ω φ) (s : Shared ω) (w : Worker φ) :
    List Call → List Message → Phase φ → Prop
  | wakes (phase : w.phase = .fresh) : Leg m s w [] [] .idle
  | exits (phase : w.phase = .idle) (none : w.begins? s = none) : Leg m s w [] [] .exited
  | skips (phase : w.phase = .idle) (none : w.begins? s = none) : Leg m s w [] [] .idle
  | begins {made : List Call} {after : Phase φ} (a : Account) (begins : w.begins? s = some a)
    (tries : Tries m s w ⟨a, s.cycle, 0⟩ made after) : Leg m s w made [] after
  | disconnects (c : Cycle) (f : Flight φ Unit) (phase : w.phase = .connecting c f)
    (due : f.due ≤ s.now) (why : Failure) (back : f.fate = .returns (.error why))
    (flight : Flight φ Unit) :
    Leg m s w [.disconnect c.account] [] (.disconnecting c flight (.failed why))
  | connected (c : Cycle) (f : Flight φ Unit) (phase : w.phase = .connecting c f)
    (due : f.due ≤ s.now) (back : f.fate = .returns (.ok ())) (flight : Flight φ (List Message)) :
    Leg m s w [.fetch c.account (c.criteria s)] [] (.fetching c flight)
  | unfetched (c : Cycle) (f : Flight φ (List Message)) (phase : w.phase = .fetching c f)
    (due : f.due ≤ s.now) (why : Failure) (back : f.fate = .returns (.error why))
    (flight : Flight φ Unit) :
    Leg m s w [.disconnect c.account] [] (.disconnecting c flight (.failed why))
  /-- The batch comes too late. -/
  | late (c : Cycle) (f : Flight φ (List Message)) (phase : w.phase = .fetching c f)
    (due : f.due ≤ s.now) (batch : List Message) (back : f.fate = .returns (.ok batch))
    (stale : s.cycle ≠ c.generation) (flight : Flight φ Unit) :
    Leg m s w [.disconnect c.account] []
      (.disconnecting c flight (if batch = [] then .done else .superseded))
  /-- The batch is taken, and there is nothing to mark. -/
  | takes (c : Cycle) (f : Flight φ (List Message)) (phase : w.phase = .fetching c f)
    (due : f.due ≤ s.now) (batch : List Message) (back : f.fate = .returns (.ok batch))
    (current : s.cycle = c.generation)
    (unmarked : c.account.criteria.markAsRead = true → s.delivered.fresh batch = [])
    (flight : Flight φ Unit) :
    Leg m s w [.disconnect c.account] (s.delivered.fresh batch) (.disconnecting c flight .done)
  | marks (c : Cycle) (f : Flight φ (List Message)) (phase : w.phase = .fetching c f)
    (due : f.due ≤ s.now) (batch : List Message) (back : f.fate = .returns (.ok batch))
    (current : s.cycle = c.generation) (asked : c.account.criteria.markAsRead = true)
    (some : s.delivered.fresh batch ≠ []) (flight : Flight φ Unit) (e : Enqueued) :
    Leg m s w [.markRead c.account ((s.delivered.fresh batch).map (·.id))]
      (s.delivered.fresh batch) (.marking c flight e)
  | marked (c : Cycle) (f : Flight φ Unit) (e : Enqueued) (phase : w.phase = .marking c f e)
    (due : f.due ≤ s.now) (result : Outcome Unit) (back : f.fate = .returns result)
    (flight : Flight φ Unit) :
    Leg m s w [.disconnect c.account] [] (.disconnecting c flight .done)
  | ends {after : Phase φ} (c : Cycle) (f : Flight φ Unit) (result : Attempt)
    (phase : w.phase = .disconnecting c f result) (due : f.due ≤ s.now) (answer : Outcome Unit)
    (back : f.fate = .returns answer)
    (ends : Ends (c.polling s).maxPollCount c result after) : Leg m s w [] [] after
  | abandons (c : Cycle) (due : Nat) (phase : w.phase = .pausing c due)
    (why : w.stop = true ∨ s.cycle ≠ c.generation) : Leg m s w [] [] .idle
  | again {made : List Call} {after : Phase φ} (c : Cycle) (due : Nat)
    (phase : w.phase = .pausing c due) (tries : Tries m s w c made after) :
    Leg m s w made [] after
  | dies (message : String) (heard : w.hears? s = some .panicked) :
    Leg m s w [] [] (.panicked message)

variable (m : Mailboxes ω φ) (s : Shared ω) (w : Worker φ) (c : Cycle)

theorem pause_ends (most : Nat) (result : Attempt) (s : Shared ω) (w : Worker φ) (c : Cycle)
    (counts : result.Counts) (text : String) (due : Nat) :
    Ends most c result (if c.attempts + 1 < most then
      (s.inform .debug text,
        { w with phase := .pausing { c with attempts := c.attempts + 1 } due })
      else finishCycle s w).2.phase := by
  by_cases left : c.attempts + 1 < most
  · rw [if_pos left]
    exact .pauses counts left due
  · rw [if_neg left]
    exact .spends counts (Nat.le_of_not_lt left)

theorem afterAttempt_ends {most : Nat} (counted : (c.polling s).maxPollCount = most)
    (result : Attempt) : Ends most c result (afterAttempt s w c result).2.phase := by
  subst counted
  cases result with
  | done => exact pause_ends _ .done s w c trivial _ _
  | superseded => exact .drops rfl
  | failed why =>
    have counted (counts : (Attempt.failed why).Counts) (told text : String) (due : Nat) :=
      pause_ends (c.polling s).maxPollCount _ (s.inform .error told) w c counts text due
    cases why with
    | unknownProvider tag => exact .skips tag rfl
    | _ => exact counted trivial _ _ _

theorem beginAttempt_tries : ∃ made, s.Effect made [] (beginAttempt m s w c).1 ∧
    Tries m s w c made (beginAttempt m s w c).2.phase := by
  obtain ⟨why, s', silent, -, same⟩ | ⟨⟨left, -⟩, s', asked, -, answer⟩ :=
    beginAttempt_cases m s w c
  · rw [same]
    exact ⟨[], silent.trans (finishCycle_does s' w c).effect, .ceases why⟩
  · obtain ⟨why, answer, same⟩ | ⟨fetcher, reply, answer, same⟩ := answer
    · have polling : c.polling s' = c.polling s := by
        simp only [Cycle.polling, asked.stays.defaults]
      rw [same]
      refine ⟨[.create c.account], asked.trans (afterAttempt_does s' w c _).effect,
        .refused left why answer ?_⟩
      exact afterAttempt_ends s' w c (congrArg _ polling) _
    · rw [same]
      exact ⟨_, asked.trans (launch_effect s' _ _), .connects left fetcher answer _⟩

theorem Tries.congr {m : Mailboxes ω φ} {s s' : Shared ω} {w w' : Worker φ} {c : Cycle}
    {made : List Call} {phase : Phase φ} (h : Tries m s w c made phase)
    (defaults : s.defaults = s'.defaults) (world : s.world = s'.world)
    (cycle : s.cycle = s'.cycle) (stop : w.stop = w'.stop) : Tries m s' w' c made phase := by
  have polling : c.polling s = c.polling s' := by simp only [Cycle.polling, defaults]
  cases h with
  | ceases why => exact .ceases (by rwa [← polling, ← stop, ← cycle])
  | refused left why answer ends =>
    exact .refused (polling ▸ left) why (world ▸ answer) (polling ▸ ends)
  | connects left fetcher answer flight =>
    exact .connects (polling ▸ left) fetcher (world ▸ answer) flight

theorem afterFetch_late_leg (f : Flight φ (List Message)) (phase : w.phase = .fetching c f)
    (due : f.due ≤ s.now) {batch : List Message} (back : f.fate = .returns (.ok batch))
    (stale : s.cycle ≠ c.generation) :
    s.Effect [.disconnect c.account] [] (afterFetch m s w c f.fetcher (.ok batch)).1 ∧
      Leg m s w [.disconnect c.account] []
        (afterFetch m s w c f.fetcher (.ok batch)).2.phase := by
  refine ⟨(afterFetch_stale_does m s w c f.fetcher stale batch).effect, ?_⟩
  have leg (flight : Flight φ Unit) := Leg.late (m := m) c f phase due batch back stale flight
  cases batch with
  | nil => exact leg _
  | cons x xs =>
    have dropped (text : String) :=
      Shared.enqueueBatch_of_stale (s := s.inform .info text) stale c.account (x :: xs)
    simp only [afterFetch, dropped, if_true]
    exact leg _

theorem afterFetch_current_leg (f : Flight φ (List Message)) (phase : w.phase = .fetching c f)
    (due : f.due ≤ s.now) {batch : List Message} (back : f.fate = .returns (.ok batch))
    (current : s.cycle = c.generation) :
    ∃ made, s.Effect made (s.delivered.fresh batch) (afterFetch m s w c f.fetcher (.ok batch)).1 ∧
      Leg m s w made (s.delivered.fresh batch)
        (afterFetch m s w c f.fetcher (.ok batch)).2.phase := by
  obtain ⟨s', delivers, -, ⟨unmarked, same⟩ | ⟨⟨asked, some⟩, e, reply, same⟩⟩ :=
    afterFetch_current_cases m s w c f.fetcher current batch
  · have effect := delivers.trans (beginDisconnect_does m s' w c f.fetcher .done).effect
    rw [List.append_nil] at effect
    rw [same]
    exact ⟨_, effect, .takes c f phase due batch back current unmarked _⟩
  · have effect := delivers.trans (launch_effect s' (.markRead c.account
      ((s.delivered.fresh batch).map (·.id))) reply)
    rw [List.append_nil] at effect
    rw [same]
    exact ⟨_, effect, .marks c f phase due batch back current asked some _ e⟩

variable {m s w c}

theorem afterConnect_leg (f : Flight φ Unit) (phase : w.phase = .connecting c f)
    (due : f.due ≤ s.now) {result : Outcome Unit} (back : f.fate = .returns result) :
    ∃ made put, s.Effect made put (afterConnect m s w c f.fetcher result).1 ∧
      Leg m s w made put (afterConnect m s w c f.fetcher result).2.phase := by
  cases result with
  | error why =>
    exact ⟨_, _, (beginDisconnect_does m s w c f.fetcher _).effect,
      .disconnects c f phase due why back _⟩
  | ok _ => exact ⟨_, _, launch_effect s _ _, .connected c f phase due back _⟩

theorem afterFetch_leg (f : Flight φ (List Message)) (phase : w.phase = .fetching c f)
    (due : f.due ≤ s.now) {result : Outcome (List Message)} (back : f.fate = .returns result) :
    ∃ made put, s.Effect made put (afterFetch m s w c f.fetcher result).1 ∧
      Leg m s w made put (afterFetch m s w c f.fetcher result).2.phase := by
  cases result with
  | error why =>
    exact ⟨_, _, (afterFetch_error_does m s w c f.fetcher why).effect,
      .unfetched c f phase due why back _⟩
  | ok batch =>
    by_cases current : s.cycle = c.generation
    · obtain ⟨made, effect, leg⟩ := afterFetch_current_leg m s w c f phase due back current
      exact ⟨made, _, effect, leg⟩
    · obtain ⟨effect, leg⟩ := afterFetch_late_leg m s w c f phase due back current
      exact ⟨_, _, effect, leg⟩

theorem beginCycle_leg (phase : w.phase = .idle) (go : w.stop = false)
    (signal : w.signal = true) :
    ∃ made put, s.Effect made put (beginCycle m s { w with signal := false }).1 ∧
      Leg m s w made put (beginCycle m s { w with signal := false }).2.phase := by
  unfold beginCycle
  cases selected : s.cursor.current? with
  | none =>
    exact ⟨[], [], (finishCycle_inform_does s _ ⟨default, 0, 0⟩ _ _).effect,
      .skips phase (by simp [begins?, phase, selected])⟩
  | some account =>
    have told : s.Effect [] [] ({ s with status := .processing account.id }.inform .info
        ("Processing account: " ++ account.displayEmail)) :=
      .silent ⟨rfl, rfl, rfl, rfl, rfl, rfl⟩ rfl rfl rfl
    obtain ⟨made, effect, tries⟩ := beginAttempt_tries m
      ({ s with status := .processing account.id }.inform .info
        ("Processing account: " ++ account.displayEmail)) { w with signal := false }
      ⟨account, s.cycle, 0⟩
    refine ⟨made, [], told.trans effect, .begins account ?_ ?_⟩
    · simp [begins?, phase, selected, signal, go]
    · exact tries.congr rfl rfl rfl rfl

/-- Every step of a worker is a leg of its way. -/
theorem step_leg {r : Step ω φ} (h : w.step m s = some r) :
    ∃ made put, s.Effect made put r.1 ∧ Leg m s w made put r.2.phase := by
  cases step_cases h with
  | wakes phase => exact ⟨_, _, inform_effect s _ _, .wakes phase⟩
  | exits phase why =>
    refine ⟨_, _, .silent ⟨rfl, rfl, rfl, rfl, rfl, rfl⟩ rfl rfl rfl, .exits phase ?_⟩
    obtain stop | ⟨silent, -⟩ := why
    · simp [begins?, phase, stop]
    · simp [begins?, phase, silent]
  | begins phase go signal => exact beginCycle_leg phase go signal
  | connects c f phase due result back => exact afterConnect_leg f phase due back
  | fetches c f phase due result back => exact afterFetch_leg f phase due back
  | marks c f e phase due result back =>
    exact ⟨_, _, (afterMark_does m s w c f.fetcher e result).effect,
      .marked c f e phase due result back _⟩
  | disconnects c f result phase due answer back =>
    exact ⟨_, _, (afterAttempt_does s w c result).effect,
      .ends c f result phase due answer back (afterAttempt_ends s w c rfl result)⟩
  | abandons c due phase why =>
    exact ⟨_, _, (finishCycle_does s w c).effect, .abandons c due phase why⟩
  | again c due phase come =>
    obtain ⟨made, effect, tries⟩ := beginAttempt_tries m s w c
    exact ⟨made, [], effect, .again c due phase tries⟩
  | dies message heard =>
    exact ⟨_, _, .silent ⟨rfl, rfl, rfl, rfl, rfl, rfl⟩ rfl rfl rfl, .dies message heard⟩

end Worker

end MailRound.Poller
