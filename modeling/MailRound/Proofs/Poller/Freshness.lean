import MailRound.Proofs.Poller.Trace

namespace MailRound.Poller

variable {ω φ : Type}

/-- A message comes in with a batch that a fetcher created for an account has fetched. -/
structure Transition.Brings (t : Transition ω φ) (a : Account) (x : Message) : Prop where
  put : x ∈ t.puts
  fetched : ∃ w c batch, t.before.poller.active? = some w ∧
    w.batch? t.before.shared = some (c, batch) ∧ x ∈ batch
  created : ∃ criteria, [.create a, .connect a, .fetch a criteria] <:+ t.before.shared.calls

/-- What a transition does with a past: fetchers are asked for only for the selected account, a
batch that comes too late changes nothing, and what is marked is what was put just then. -/
structure Transition.Clean (t : Transition ω φ) (past : History ω φ) : Prop where
  created : ∀ a, .create a ∈ t.calls →
    t.before.shared.cursor.current? = some a ∧ History.Undisturbed (t :: past) a
  late : ∀ w c batch, t.move = .work → t.before.poller.active? = some w →
    w.batch? t.before.shared = some (c, batch) → (∃ u ∈ past.sinceBegun, u.interrupts = true) →
    t.after.shared.queue = t.before.shared.queue ∧
      t.after.shared.delivered = t.before.shared.delivered ∧ ∀ a ids, .markRead a ids ∉ t.calls
  marked : ∀ a ids, .markRead a ids ∈ t.calls → past.Undisturbed a ∧ ids = t.puts.map (·.id)

theorem Shared.Effect.nothing {s s' : Shared ω} {made : List Call} (h : s.Effect made [] s') :
    s'.queue = s.queue ∧ s'.delivered = s.delivered := by
  refine ⟨h.queue, ?_⟩
  rw [h.delivered]
  simp [Delivered.markAll]

namespace System

variable {m : Mailboxes ω φ} {start s s' : System ω φ} {h : History ω φ} {w : Worker φ} {c : Cycle}

/-- A cycle of the present selection has not been disturbed. -/
theorem Traced.undisturbed (traced : Traced h s) (active : s.poller.active? = some w)
    (inside : w.cycle? = some c) (newest : s.shared.cycle = c.generation) :
    h.Undisturbed c.account := by
  obtain ⟨running, counted, -⟩ := traced w c active inside
  have none : h.sinceBegun.countP (·.interrupts) = 0 := by omega
  exact ⟨running, fun t ht => by simpa using List.countP_eq_zero.1 none t ht⟩

theorem clean_outside {t : Transition ω φ} (outside : Outside t) (other : t.move ≠ .work) :
    t.Clean h := by
  have none : t.calls = [] := by simp [Transition.calls, outside.calls]
  refine ⟨?_, ?_, ?_⟩
  · simp [none]
  · intro w c batch work
    exact absurd work other
  · simp [none]

namespace Turned

variable {r : Worker.Step ω φ} {p : Poller ω φ} {made : List Call} {put : List Message}

theorem clean_of_quiet (turned : Turned m s w r p made put) (calls : made = [])
    (empty : put = []) : Transition.Clean ⟨.work, s, { s with poller := p }⟩ h := by
  subst calls empty
  refine ⟨by simp [turned.calls], ?_, by simp [turned.calls]⟩
  intro w c batch _ _ _ _
  exact ⟨turned.effect.nothing.1, turned.effect.nothing.2, by simp [turned.calls]⟩

theorem clean_of_begins {account : Account} (turned : Turned m s w r p made put) (sound : s.Sound)
    (selected : w.begins? s.shared = some account)
    (calls : made = [] ∧ r.2.phase = .idle ∨ made = [.create account] ∨
      made = [.create account, .connect account]) :
    Transition.Clean ⟨.work, s, { s with poller := p }⟩ h := by
  have active := turned.worked.active.1
  have only : ∀ call ∈ made, call = .create account ∨ call = .connect account := by
    obtain ⟨rfl, -⟩ | rfl | rfl := calls <;> simp
  refine ⟨?_, ?_, ?_⟩
  · intro a created
    rw [turned.calls] at created
    obtain rfl : a = account := by simpa using only _ created
    refine ⟨(sound.begins active selected).2.1, ?_, ?_⟩
    · rw [running?_cons, turned.begins?, selected]
      rfl
    · simp [sinceBegun_cons, turned.begins?, selected]
  · intro v c batch _ was fetched
    obtain rfl := Option.some.inj (active.symm.trans was)
    have none := Worker.begins?_of_cycle? (s := s.shared) (Worker.cycle?_of_batch? fetched)
    rw [selected] at none
    cases none
  · intro a ids marked
    rw [turned.calls] at marked
    simpa using only _ marked

/-- A batch that is taken belongs to the present selection, so nothing has come in between. -/
theorem clean_of_taken {batch : List Message} (turned : Turned m s w r p made put)
    (traced : Traced h s) (fetched : w.batch? s.shared = some (c, batch))
    (newest : s.shared.cycle = c.generation)
    (calls : made = [.disconnect c.account] ∨ made = [.markRead c.account (put.map (·.id))]) :
    Transition.Clean ⟨.work, s, { s with poller := p }⟩ h := by
  have calm := traced.undisturbed turned.worked.active.1 (Worker.cycle?_of_batch? fetched) newest
  refine ⟨?_, ?_, ?_⟩
  · intro a created
    rw [turned.calls] at created
    obtain rfl | rfl := calls <;> simp at created
  · rintro v d batch' - - - ⟨u, since, disturbs⟩
    rw [calm.2 u since] at disturbs
    cases disturbs
  · intro a ids marked
    rw [turned.calls] at marked
    obtain rfl | rfl := calls
    · simp at marked
    · obtain ⟨rfl, rfl⟩ : a = c.account ∧ ids = put.map (·.id) := by simpa using marked
      exact ⟨calm, by rw [turned.puts]⟩

theorem clean_of_goesOn (turned : Turned m s w r p made []) (sound : s.Sound)
    (traced : Traced h s) (inside : w.cycle? = some c)
    (calls : createdIn made = [] ∨
      createdIn made = [c.account] ∧ w.stop = false ∧ s.shared.cycle = c.generation)
    (unmarked : ∀ a ids, .markRead a ids ∉ made) :
    Transition.Clean ⟨.work, s, { s with poller := p }⟩ h := by
  have active := turned.worked.active.1
  have none := Worker.begins?_of_cycle? (s := s.shared) inside
  refine ⟨?_, ?_, ?_⟩
  · intro a created
    rw [turned.calls] at created
    have asked := mem_createdIn.2 created
    obtain quiet | ⟨one, -, newest⟩ := calls
    · simp [quiet] at asked
    · obtain rfl : a = c.account := by simpa [one] using asked
      obtain ⟨running, calm⟩ := traced.undisturbed active inside newest
      refine ⟨(sound.current active inside newest.symm).2.1, ?_, ?_⟩
      · rw [running?_cons, turned.begins?, none]
        exact running
      · rw [sinceBegun_cons, turned.begins?, none]
        exact List.forall_mem_cons.2 ⟨rfl, calm⟩
  · intro v d batch _ _ _ _
    exact ⟨turned.effect.nothing.1, turned.effect.nothing.2, by simpa [turned.calls] using unmarked⟩
  · intro a ids marked
    rw [turned.calls] at marked
    exact absurd marked (unmarked a ids)

end Turned

theorem clean_work {p : Poller ω φ} (sound : s.Sound) (traced : Traced h s)
    (goes : s.poller.stepWorker m = some p) :
    Transition.Clean ⟨.work, s, { s with poller := p }⟩ h := by
  obtain ⟨w, r, made, put, turned⟩ := sound.turned goes
  cases turned.turn with
  | wakes fresh self flag calls empty => exact turned.clean_of_quiet calls empty
  | exits idle why self flag calls empty => exact turned.clean_of_quiet calls empty
  | skips idle go signal unselected self flag calls empty =>
    exact turned.clean_of_quiet calls empty
  | dies c inside other message self flag calls empty => exact turned.clean_of_quiet calls empty
  | begins account selected goes calls empty => exact turned.clean_of_begins sound selected calls
  | lands c batch fetched goes taken =>
    obtain ⟨newest, -, calls⟩ | ⟨stale, rfl, calls⟩ := taken
    · exact turned.clean_of_taken traced fetched newest calls
    · refine ⟨by simp [turned.calls, calls], ?_, by simp [turned.calls, calls]⟩
      intro v d batch' _ _ _ _
      exact ⟨turned.effect.nothing.1, turned.effect.nothing.2, by simp [turned.calls, calls]⟩
  | goesOn c inside other goes calls unmarked empty =>
    subst empty
    exact turned.clean_of_goesOn sound traced inside calls unmarked

theorem Step.clean {move : Move} (sound : s.Sound) (traced : Traced h s)
    (step : Step m s move s') : Transition.Clean ⟨move, s, s'⟩ h := by
  by_cases work : move = .work
  · subst work
    cases step with
    | work goes => exact clean_work sound traced goes
  · exact clean_outside (step.outside sound work) work

/-- What the queue holds was put since it was cleared, for the account that is selected now. -/
structure Fresh (h : History ω φ) (s : System ω φ) : Prop where
  since : s.shared.queue.messages <:+ h.putsSince
  brought : ∀ t ∈ h.sinceCleared, ∀ x ∈ t.puts,
    ∃ a, s.shared.cursor.current? = some a ∧ t.Brings a x

theorem sinceCleared_cons (t : Transition ω φ) (h : History ω φ) :
    History.sinceCleared (t :: h) = if t.clears then [] else t :: h.sinceCleared := by
  cases clears : t.clears <;> simp [History.sinceCleared, clears]

theorem Fresh.outside {t : Transition ω φ} (fresh : Fresh h t.before) (outside : Outside t)
    (other : t.move ≠ .work) : Fresh (t :: h) t.after := by
  have none : t.puts = [] := by
    unfold Transition.puts
    split
    · contradiction
    · rfl
  cases clears : t.clears with
  | true =>
    have cut := sinceCleared_cons t h
    rw [clears, if_pos rfl] at cut
    refine ⟨?_, by simp [cut]⟩
    rw [outside.cleared clears]
    exact List.nil_suffix
  | false =>
    obtain ⟨cursor, queue⟩ := outside.kept clears
    have longer := sinceCleared_cons t h
    rw [clears, if_neg (by simp)] at longer
    refine ⟨?_, ?_⟩
    · have same : History.putsSince (t :: h) = h.putsSince := by
        simp [History.putsSince, longer, none]
      rw [same]
      exact queue.trans fresh.since
    · rw [longer, cursor]
      refine List.forall_mem_cons.2 ⟨by simp [none], fresh.brought⟩

theorem Fresh.work {p : Poller ω φ} (sound : s.Sound) (traced : Traced h s) (fresh : Fresh h s)
    (goes : s.poller.stepWorker m = some p) :
    Fresh (⟨.work, s, { s with poller := p }⟩ :: h) { s with poller := p } := by
  obtain ⟨w, r, made, put, turned⟩ := sound.turned goes
  have active := turned.worked.active.1
  have cursor : p.shared.cursor = s.shared.cursor := turned.effect.stays.cursor
  have longer := sinceCleared_cons ⟨.work, s, { s with poller := p }⟩ h
  rw [show Transition.clears ⟨.work, s, { s with poller := p }⟩ = false from rfl,
    if_neg (by simp)] at longer
  refine ⟨?_, ?_⟩
  · obtain ⟨taken, since⟩ := fresh.since
    refine ⟨taken, ?_⟩
    have queue : p.shared.queue.messages = s.shared.queue.messages ++ put := by
      rw [turned.effect.queue, Queue.putAll_messages]
    have puts : History.putsSince (⟨.work, s, { s with poller := p }⟩ :: h) =
        h.putsSince ++ put := by
      simp [History.putsSince, longer, turned.puts]
    rw [puts, ← since, List.append_assoc]
    exact congrArg _ queue
  · rw [longer]
    refine List.forall_mem_cons.2 ⟨?_, ?_⟩
    · intro x new
      rw [turned.puts] at new
      obtain ⟨c, batch, fetched, newest, filled⟩ := turned.turn.brings new
      have inside := Worker.cycle?_of_batch? fetched
      refine ⟨c.account, ?_, turned.puts.symm ▸ new, ⟨w, c, batch, active, fetched, ?_⟩, ?_⟩
      · exact (congrArg _ cursor).trans (sound.current active inside newest.symm).2.1
      · exact (s.shared.delivered.fresh_sublist batch).subset (filled ▸ new)
      · obtain ⟨f, phase, -⟩ := Worker.batch?_eq_some.1 fetched
        simpa [Worker.Trails, phase] using (traced w c active inside).2.2
    · intro t since x put
      obtain ⟨a, current, brings⟩ := fresh.brought t since x put
      exact ⟨a, (congrArg _ cursor).trans current, brings⟩

theorem Fresh.step {move : Move} (sound : s.Sound) (traced : Traced h s) (fresh : Fresh h s)
    (step : Step m s move s') : Fresh (⟨move, s, s'⟩ :: h) s' := by
  by_cases work : move = .work
  · subst work
    cases step with
    | work goes => exact fresh.work sound traced goes
  · exact fresh.outside (step.outside sound work) work

theorem Run.fresh (run : Run m start h s) (sound : start.Sound)
    (still : start.poller.active? = none) (empty : start.shared.queue.messages = []) :
    Fresh h s := by
  induction run with
  | nil => exact ⟨by rw [empty]; exact List.nil_suffix, by simp [History.sinceCleared]⟩
  | cons past step ih => exact ih.step (past.sound sound) (past.traced sound still) step

theorem Run.clean (run : Run m start h s) (sound : start.Sound)
    (still : start.poller.active? = none) :
    ∀ t past, t :: past <:+ h → t.Clean past := by
  induction run with
  | nil => simp
  | cons past step ih =>
    intro t before suffix
    obtain same | earlier := List.suffix_cons_iff.1 suffix
    · obtain ⟨rfl, rfl⟩ := List.cons.inj same
      exact step.clean (past.sound sound) (past.traced sound still)
    · exact ih t before earlier

end System

/-- In every run: the queue holds what was put since the latest selection or reset by fetchers of
the account selected now, and every transition is clean. -/
theorem stale_work_never_leaks {m : Mailboxes ω φ} {roster : Roster} {defaults : Polling}
    {world : ω} {clock : Calendar.Instant} {h : History ω φ} {s : System ω φ}
    (run : System.Run m (System.new roster defaults world clock) h s) :
    s.shared.queue.messages <:+ h.putsSince ∧
      (∀ t ∈ h.sinceCleared, ∀ x ∈ t.puts,
        ∃ a, s.shared.cursor.current? = some a ∧ t.Brings a x) ∧
      (s.shared.cursor.current? = none → s.shared.queue.messages = []) ∧
      ∀ t past, t :: past <:+ h → t.Clean past := by
  have sound : (System.new roster defaults world clock : System ω φ).Sound :=
    System.sound_new roster defaults world clock
  have fresh := run.fresh sound rfl rfl
  refine ⟨fresh.since, fresh.brought, ?_, run.clean sound rfl⟩
  intro unselected
  have nothing : h.putsSince = [] := by
    refine List.flatMap_eq_nil_iff.2 fun t since => List.eq_nil_iff_forall_not_mem.2 fun x put => ?_
    obtain ⟨a, selected, -⟩ := fresh.brought t (List.mem_reverse.1 since) x put
    rw [unselected] at selected
    cases selected
  rw [← List.suffix_nil, ← nothing]
  exact fresh.since

/-- A selection comes while a fetch is in flight: the batch arrives too late and is dropped. -/
theorem stale_work_never_leaks_single :
    ∃ (t : Transition Script.Scripts Script.Step) (past : History Script.Scripts Script.Step)
      (s : System Script.Scripts Script.Step) (w : Worker Script.Step) (c : Cycle),
      System.Run Script.mailboxes .single (t :: past) s ∧
        t.before.poller.active? = some w ∧
        w.batch? t.before.shared = some (c, [plainMessage "1"]) ∧
        t.after.shared.queue = t.before.shared.queue ∧
        t.after.shared.delivered = t.before.shared.delivered ∧
        ∀ a ids, .markRead a ids ∉ t.calls := by
  have run : System.Run Script.mailboxes .single [] .single := .nil
  have run := run.cons (.start true rfl)
  have run := run.cons (.work rfl) |>.cons (.work rfl) |>.cons (.work rfl)
  have run := run.cons (.next rfl) |>.cons (.work rfl)
  obtain ⟨-, -, -, clean⟩ := stale_work_never_leaks run
  exact ⟨_, _, _, _, _, run, rfl, rfl,
    (clean _ _ (List.suffix_refl _)).late _ _ _ rfl rfl rfl ⟨_, List.mem_cons_self, rfl⟩⟩

end MailRound.Poller
