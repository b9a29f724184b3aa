import MailRound.Proofs.Poller.Trace
import MailRound.Proofs.Round.Plain

namespace MailRound.Poller

/-- How often the account of a cycle is to be tried. -/
def Cycle.most (c : Cycle) (defaults : Polling) : Nat := Plain.limit defaults c.account

theorem Cycle.polling_maxPollCount {ω : Type} (c : Cycle) (s : Shared ω) :
    (c.polling s).maxPollCount = c.most s.defaults :=
  Plain.effectivePolling_maxPollCount c.account s.defaults

def Cycle.left (c : Cycle) (defaults : Polling) : Nat := c.most defaults - (c.attempts + 1)

namespace Worker

open Plain (Mail)

/-- The account that a worker outside a cycle has a signal for. -/
def queued? {φ : Type} (current? : Option Account) (w : Worker φ) : Option Account :=
  if w.signal then current? else none

/-- What the plain program still does for the selected account. -/
def rest (defaults : Polling) (current? : Option Account) (w : Worker Script.Step) (x : Mail) :
    Mail :=
  match w.phase with
  | .connecting c f => Plain.settle c.account.id (c.left defaults) x (Plain.outcome f.fetcher)
  | .fetching c f => Plain.settle c.account.id (c.left defaults) x (Plain.fetched f.fetcher)
  | .marking c _ _ => Plain.resume c.account.id (c.left defaults) x .done
  | .disconnecting c _ result => Plain.resume c.account.id (c.left defaults) x result
  | .pausing c _ => Plain.attempts c.account.id (c.most defaults - c.attempts) x
  | _ => match w.queued? current? with
    | some a => Plain.poll defaults x a
    | none => x

def steps {φ : Type} (defaults : Polling) (current? : Option Account) (w : Worker φ) : Nat :=
  let waiting := match w.queued? current? with
    | some a => Plain.share defaults a
    | none => 0
  match w.phase with
  | .connecting c _ => 5 * c.left defaults + 5
  | .fetching c _ => 5 * c.left defaults + 4
  | .marking c _ _ => 5 * c.left defaults + 3
  | .disconnecting c _ _ => 5 * c.left defaults + 2
  | .pausing c _ => 5 * (c.most defaults - c.attempts) + 1
  | .fresh => waiting + 1
  | _ => waiting

theorem rest_of_idle {w : Worker Script.Step} (outside : w.cycle? = none)
    (signal : w.signal = false)
    (defaults : Polling) (current? : Option Account) (x : Mail) :
    w.rest defaults current? x = x := by
  cases phase : w.phase <;> simp_all [rest, queued?, cycle?]

theorem steps_of_idle {φ : Type} {w : Worker φ} (outside : w.cycle? = none)
    (signal : w.signal = false) (defaults : Polling) (current? : Option Account) :
    w.steps defaults current? ≤ 1 := by
  cases phase : w.phase <;> simp_all [steps, queued?, cycle?]

theorem rest_of_signal {w : Worker Script.Step} {a : Account} (outside : w.cycle? = none)
    (defaults : Polling) (x : Mail) :
    ({ w with signal := true } : Worker Script.Step).rest defaults (some a) x =
      Plain.poll defaults x a := by
  cases phase : w.phase <;> simp_all [rest, queued?, cycle?]

theorem steps_of_signal {φ : Type} {w : Worker φ} {a : Account} (outside : w.cycle? = none)
    (signal : w.signal = false) (defaults : Polling) (current? : Option Account) :
    ({ w with signal := true } : Worker φ).steps defaults (some a) =
      w.steps defaults current? + Plain.share defaults a := by
  cases phase : w.phase <;> simp_all [steps, queued?, cycle?]
  exact Nat.add_comm _ _

/-- The calls in flight end as the script of their attempt says, and none takes the worker down. -/
def Scripted (w : Worker Script.Step) : Prop :=
  match w.phase with
  | .connecting _ f =>
    f.fetcher.Calm ∧ f.fetcher.createError = none ∧ f.fate = f.fetcher.connect.fate ()
  | .fetching _ f => f.fetcher.Calm ∧ f.fate = f.fetcher.fetch.fate f.fetcher.batch
  | .marking _ f _ => f.fetcher.Calm ∧ f.fate = f.fetcher.mark.fate ()
  | .disconnecting _ f _ => f.fetcher.Calm ∧ f.fate = f.fetcher.disconnect.fate ()
  | .panicked _ => False
  | _ => True

/-- The result of a part of a step: with `kept` as the messages so far, `target` is what the plain
program comes to for the selected account. -/
structure Leads (r : Step Script.Scripts Script.Step) (kept : List Message) (target : Mail)
    (most : Nat) : Prop where
  rest : r.2.rest r.1.defaults r.1.cursor.current? ⟨r.1.world, kept⟩ = target
  scripted : r.2.Scripted
  calm : Script.Calm r.1.world
  steps : r.2.steps r.1.defaults r.1.cursor.current? ≤ most

variable {s : Shared Script.Scripts} {w : Worker Script.Step} {c : Cycle} {step : Script.Step}
  {kept : List Message}

theorem Leads.mono {r : Step Script.Scripts Script.Step} {target : Mail} {n n' : Nat}
    (h : Leads r kept target n) (le : n ≤ n') : Leads r kept target n' :=
  ⟨h.rest, h.scripted, h.calm, Nat.le_trans h.steps le⟩

variable (kept)

theorem finishCycle_leads (calm : Script.Calm s.world) (signal : w.signal = false) (most : Nat) :
    Leads (finishCycle s w) kept ⟨s.world, kept⟩ most := by
  refine ⟨?_, trivial, calm, ?_⟩
  · simp [finishCycle, rest, queued?, signal]
  · simp [finishCycle, steps, queued?, signal]

theorem pause_leads (calm : Script.Calm s.world) (signal : w.signal = false) (text : String)
    (due : Nat) :
    Leads (if c.attempts + 1 < (c.polling s).maxPollCount then
        (s.inform .debug text,
          { w with phase := .pausing { c with attempts := c.attempts + 1 } due })
      else finishCycle s w) kept
      (Plain.attempts c.account.id (c.left s.defaults) ⟨s.world, kept⟩)
      (5 * c.left s.defaults + 1) := by
  rw [c.polling_maxPollCount s]
  by_cases more : c.attempts + 1 < c.most s.defaults
  · rw [if_pos more]
    exact ⟨rfl, trivial, calm, Nat.le_refl _⟩
  · rw [if_neg more]
    have none : c.left s.defaults = 0 := by
      unfold Cycle.left
      omega
    rw [none]
    exact finishCycle_leads kept calm signal _

theorem afterAttempt_leads (calm : Script.Calm s.world) (signal : w.signal = false)
    (result : Attempt) :
    Leads (afterAttempt s w c result) kept
      (Plain.resume c.account.id (c.left s.defaults) ⟨s.world, kept⟩ result)
      (5 * c.left s.defaults + 1) := by
  cases result with
  | done => exact pause_leads kept calm signal _ _
  | superseded => exact finishCycle_leads (s := s.inform _ _) kept calm signal _
  | failed why =>
    have counts (text told : String) (due : Nat) :=
      pause_leads (s := s.inform .error text) (c := c) kept calm signal told due
    cases why with
    | unknownProvider tag => exact finishCycle_leads (s := s.inform _ _) kept calm signal _
    | _ => exact counts _ _ _

theorem beginAttempt_leads (calm : Script.Calm s.world) (signal : w.signal = false)
    (go : w.stop = false) (current : s.cycle = c.generation) :
    Leads (beginAttempt Script.mailboxes s w c) kept
      (Plain.attempts c.account.id (c.most s.defaults - c.attempts) ⟨s.world, kept⟩)
      (5 * (c.most s.defaults - c.attempts)) := by
  unfold beginAttempt
  dsimp only
  rw [c.polling_maxPollCount s]
  by_cases spent : c.most s.defaults ≤ c.attempts
  · rw [if_pos (.inl spent), Nat.sub_eq_zero_of_le spent]
    exact finishCycle_leads kept calm signal _
  · have going : ¬ (c.most s.defaults ≤ c.attempts ∨ w.stop = true) := by simp [spent, go]
    have count : c.most s.defaults - c.attempts = c.left s.defaults + 1 := by
      unfold Cycle.left
      omega
    obtain ⟨first, others⟩ := Script.take_calm calm c.account.id
    rw [if_neg going, if_neg (not_not.2 current), count, Plain.attempts_succ]
    cases taken : Script.take s.world c.account.id with
    | mk step scripts =>
    rw [taken] at first others
    cases failed : step.createError with
    | some why =>
      have created : Script.mailboxes.create s.world c.account = (scripts, [], .error why) := by
        simp [Script.mailboxes, taken, failed]
      have comes : Plain.outcome step = .error why := by simp [Plain.outcome, failed]
      simp only [Shared.inform, Shared.note, Shared.record, created, comes, Plain.settle]
      exact (afterAttempt_leads (s := { s with world := scripts, calls := _, log := _ }) kept others
        signal (.failed why)).mono (by dsimp only; omega)
    | none =>
      have created : Script.mailboxes.create s.world c.account = (scripts, [], .ok step) := by
        simp [Script.mailboxes, taken, failed]
      simp only [Shared.inform, Shared.note, Shared.record, created]
      exact ⟨rfl, ⟨first, failed, rfl⟩, others, Nat.le_refl _⟩

theorem beginCycle_leads {a : Account} (calm : Script.Calm s.world) (signal : w.signal = false)
    (go : w.stop = false) (selected : s.cursor.current? = some a) :
    Leads (beginCycle Script.mailboxes s w) kept (Plain.poll s.defaults ⟨s.world, kept⟩ a)
      (5 * Plain.limit s.defaults a) := by
  simp only [beginCycle, selected]
  exact beginAttempt_leads kept calm signal go rfl

theorem beginDisconnect_leads (calm : Script.Calm s.world) (harmless : step.Calm)
    (result : Attempt) :
    Leads (beginDisconnect Script.mailboxes s w c step result) kept
      (Plain.resume c.account.id (c.left s.defaults) ⟨s.world, kept⟩ result)
      (5 * c.left s.defaults + 2) :=
  ⟨rfl, ⟨harmless, rfl⟩, calm, Nat.le_refl _⟩

theorem afterConnect_leads (calm : Script.Calm s.world) (harmless : step.Calm)
    (created : step.createError = none) {result : Outcome Unit}
    (answer : step.connect.fate () = .returns result) :
    Leads (afterConnect Script.mailboxes s w c step result) kept
      (Plain.settle c.account.id (c.left s.defaults) ⟨s.world, kept⟩ (Plain.outcome step))
      (5 * c.left s.defaults + 4) := by
  rw [Script.Stage.fate_of_calm harmless.1] at answer
  unfold Plain.outcome
  rw [created]
  cases failed : step.connect.error with
  | some why =>
    rw [failed] at answer
    obtain rfl := Fate.returns.inj answer
    exact (beginDisconnect_leads kept calm harmless _).mono (by omega)
  | none =>
    rw [failed] at answer
    obtain rfl := Fate.returns.inj answer
    exact ⟨rfl, ⟨harmless, rfl⟩, calm, Nat.le_refl _⟩

theorem afterMark_leads (calm : Script.Calm s.world) (harmless : step.Calm) (e : Enqueued)
    (result : Outcome Unit) :
    Leads (afterMark Script.mailboxes s w c step e result) kept
      (Plain.resume c.account.id (c.left s.defaults) ⟨s.world, kept⟩ .done)
      (5 * c.left s.defaults + 2) := by
  cases result with
  | error why =>
    exact beginDisconnect_leads (s := processedNote (s.inform _ _) c e) kept calm harmless _
  | ok _ =>
    exact beginDisconnect_leads (s := processedNote (s.inform _ _) c e) kept calm harmless _

variable {kept}

/-- A batch that comes in time is kept as the plain program keeps it. -/
theorem afterFetch_ok_leads (calm : Script.Calm s.world) (harmless : step.Calm)
    (current : s.cycle = c.generation) (ids : s.delivered.ids = kept.map (·.id))
    (batch : List Message) :
    Leads (afterFetch Script.mailboxes s w c step (.ok batch)) (kept ++ s.delivered.fresh batch)
      (Plain.settle c.account.id (c.left s.defaults) ⟨s.world, kept⟩ (.ok batch))
      (5 * c.left s.defaults + 3) := by
  rw [Plain.settle, Plain.keep_eq_fresh batch ids]
  cases batch with
  | nil =>
    exact (beginDisconnect_leads (s := s.inform _ _) _ calm harmless .done).mono (Nat.le_succ _)
  | cons x xs =>
    have taken (text : String) : ∃ log toMark,
        (s.inform .info text).enqueueBatch c.account c.generation (x :: xs) =
          ({ s with
              delivered := s.delivered.markAll ((s.delivered.fresh (x :: xs)).map (·.id))
              queue := s.queue.putAll s.clock (s.delivered.fresh (x :: xs))
              log := log }, ⟨(s.delivered.fresh (x :: xs)).length, toMark, false⟩) := by
      obtain ⟨log, h⟩ := Shared.enqueueBatch_of_current (s := s.inform .info text) current c.account
        (x :: xs)
      exact ⟨log, _, h⟩
    obtain ⟨log, toMark, enqueued⟩ := taken (c.label ++ " Fetched " ++
      Text.decimal (x :: xs).length ++ " new email(s).")
    simp only [afterFetch, enqueued, Bool.false_eq_true, if_false]
    split
    · refine Leads.mono (n := 5 * c.left s.defaults + 2) ?_ (Nat.le_succ _)
      refine beginDisconnect_leads _ ?_ harmless .done
      exact calm
    · exact ⟨rfl, ⟨harmless, rfl⟩, calm, Nat.le_refl _⟩

theorem afterFetch_leads (calm : Script.Calm s.world) (harmless : step.Calm)
    (current : s.cycle = c.generation) (ids : s.delivered.ids = kept.map (·.id))
    {result : Outcome (List Message)} (answer : step.fetch.fate step.batch = .returns result)
    (put : List Message) (put_ok : ∀ batch, result = .ok batch → put = s.delivered.fresh batch)
    (put_error : ∀ why, result = .error why → put = []) :
    Leads (afterFetch Script.mailboxes s w c step result) (kept ++ put)
      (Plain.settle c.account.id (c.left s.defaults) ⟨s.world, kept⟩ (Plain.fetched step))
      (5 * c.left s.defaults + 3) := by
  rw [Script.Stage.fate_of_calm harmless.2.1] at answer
  unfold Plain.fetched
  cases failed : step.fetch.error with
  | some why =>
    rw [failed] at answer
    obtain rfl := Fate.returns.inj answer
    rw [put_error why rfl, List.append_nil]
    exact (beginDisconnect_leads kept calm harmless _).mono (Nat.le_succ _)
  | none =>
    rw [failed] at answer
    obtain rfl := Fate.returns.inj answer
    rw [put_ok _ rfl]
    exact afterFetch_ok_leads calm harmless current ids step.batch

/-- A worker whose cycle, if it is in one, is that of the present selection. -/
structure Present {φ : Type} (s : Shared Script.Scripts) (w : Worker φ) : Prop where
  go : w.stop = false
  opened : w.closed = false
  inside : ∀ c, w.cycle? = some c → w.signal = false ∧ s.cycle = c.generation
  signalled : w.signal = true → s.cursor.current?.isSome = true

theorem Turn.put_eq_nil {r : Step Script.Scripts Script.Step} {made : List Call}
    {put : List Message} (turn : Turn s w made put r) (other : w.batch? s = none) : put = [] := by
  cases put with
  | nil => rfl
  | cons x xs =>
    obtain ⟨d, batch, fetched, -⟩ := turn.brings List.mem_cons_self
    rw [other] at fetched
    cases fetched

theorem Turn.put_of_current {r : Step Script.Scripts Script.Step} {made : List Call}
    {put batch : List Message} (turn : Turn s w made put r) (fetched : w.batch? s = some (c, batch))
    (current : s.cycle = c.generation) : put = s.delivered.fresh batch := by
  obtain ⟨f, phase, -⟩ := batch?_eq_some.1 fetched
  cases turn with
  | wakes fresh self flag quiet empty => simp [phase] at fresh
  | exits idle why self flag quiet empty => simp [phase] at idle
  | skips idle go signal unselected self flag quiet empty => simp [phase] at idle
  | begins account selected goes calls empty => simp [begins?, phase] at selected
  | lands d batch' fetched' goes taken =>
    obtain ⟨rfl, rfl⟩ := Prod.mk.inj (Option.some.inj (fetched.symm.trans fetched'))
    obtain ⟨-, filled, -⟩ | ⟨stale, -, -⟩ := taken
    · exact filled
    · exact absurd current stale
  | goesOn d inside other goes calls unmarked empty => simp [fetched] at other
  | dies d inside other message self flag quiet empty => simp [fetched] at other

theorem hears?_ne_panicked (scripted : w.Scripted) : w.hears? s ≠ some .panicked := by
  have back {α : Type} {f : Flight Script.Step α} {stage : Script.Stage} {value : α}
      (calm : stage.panics = false) (fate : f.fate = stage.fate value)
      (heard : (if f.due ≤ s.now then some (Event.ofFate f.fate) else none) = some .panicked) :
      False := by
    rw [fate, Script.Stage.fate_of_calm calm] at heard
    cases failed : stage.error <;> simp [failed, Event.ofFate] at heard
  intro heard
  unfold hears? at heard
  unfold Scripted at scripted
  cases phase : w.phase with
  | connecting c f =>
    simp only [phase] at heard scripted
    exact back scripted.1.1 scripted.2.2 heard
  | fetching c f =>
    simp only [phase] at heard scripted
    exact back scripted.1.2.1 scripted.2 heard
  | marking c f e =>
    simp only [phase] at heard scripted
    exact back scripted.1.2.2.1 scripted.2 heard
  | disconnecting c f result =>
    simp only [phase] at heard scripted
    exact back scripted.1.2.2.2 scripted.2 heard
  | _ => simp [phase] at heard

theorem steps_pos {r : Step Script.Scripts Script.Step} (h : w.step Script.mailboxes s = some r)
    (present : w.Present s) : 0 < w.steps s.defaults s.cursor.current? := by
  cases step_cases h with
  | exits phase why => simp [present.go, present.opened] at why
  | begins phase go signal =>
    obtain ⟨a, selected⟩ := Option.isSome_iff_exists.1 (present.signalled signal)
    simp [steps, phase, queued?, signal, selected, Plain.share]
  | dies message heard =>
    obtain ⟨⟨c, inside⟩, -⟩ := inside_of_panicked heard
    cases phase : w.phase <;> simp_all [steps, cycle?]
  | _ => simp_all [steps]

/-- Every step of a present worker does a part of what the plain program has to do. -/
theorem step_leads {r : Step Script.Scripts Script.Step} {made : List Call} {put : List Message}
    (h : w.step Script.mailboxes s = some r) (turn : Turn s w made put r) (present : w.Present s)
    (scripted : w.Scripted) (calm : Script.Calm s.world)
    (ids : s.delivered.ids = kept.map (·.id)) :
    Leads r (kept ++ put) (w.rest s.defaults s.cursor.current? ⟨s.world, kept⟩)
      (w.steps s.defaults s.cursor.current? - 1) := by
  -- Only a step that comes back with a batch adds to what is kept.
  have plain (other : w.batch? s = none) : kept ++ put = kept := by
    rw [turn.put_eq_nil other, List.append_nil]
  cases step_cases h with
  | wakes phase =>
    rw [plain (by simp [batch?, phase])]
    refine ⟨?_, trivial, calm, ?_⟩
    · simp [rest, phase, Shared.inform, Shared.note, queued?]
    · simp [steps, phase, Shared.inform, Shared.note, queued?]
  | exits phase why => simp [present.go, present.opened] at why
  | begins phase go signal =>
    rw [plain (by simp [batch?, phase])]
    obtain ⟨a, selected⟩ := Option.isSome_iff_exists.1 (present.signalled signal)
    have leads := beginCycle_leads (w := { w with signal := false }) kept calm rfl
      present.go selected
    simpa [rest, steps, phase, queued?, signal, selected, Plain.share] using leads
  | connects c f phase due result back =>
    rw [plain (by simp [batch?, phase])]
    obtain ⟨harmless, created, fate⟩ : f.fetcher.Calm ∧ f.fetcher.createError = none ∧
        f.fate = f.fetcher.connect.fate () := by simpa [Scripted, phase] using scripted
    have leads := afterConnect_leads (w := w) (c := c) kept calm harmless created (fate ▸ back)
    simpa [rest, steps, phase] using leads
  | fetches c f phase due result back =>
    obtain ⟨harmless, fate⟩ : f.fetcher.Calm ∧
        f.fate = f.fetcher.fetch.fate f.fetcher.batch := by simpa [Scripted, phase] using scripted
    have current := (present.inside c (by simp [cycle?, phase])).2
    have leads := afterFetch_leads (w := w) (c := c) calm harmless current ids (fate ▸ back)
      put ?_ ?_
    · simpa [rest, steps, phase] using leads
    · rintro batch rfl
      exact turn.put_of_current (batch?_eq_some.2 ⟨f, phase, back, due⟩) current
    · rintro why rfl
      exact turn.put_eq_nil (by simp [batch?, phase, back])
  | marks c f e phase due result back =>
    rw [plain (by simp [batch?, phase])]
    obtain ⟨harmless, -⟩ : f.fetcher.Calm ∧ f.fate = f.fetcher.mark.fate () := by
      simpa [Scripted, phase] using scripted
    have leads := afterMark_leads (w := w) (c := c) kept calm harmless e result
    simpa [rest, steps, phase] using leads
  | disconnects c f result phase due answer back =>
    rw [plain (by simp [batch?, phase])]
    have signal := (present.inside c (by simp [cycle?, phase])).1
    have leads := afterAttempt_leads (c := c) kept calm signal result
    simpa [rest, steps, phase] using leads
  | abandons c due phase why =>
    have current := (present.inside c (by simp [cycle?, phase])).2
    simp [present.go, current] at why
  | again c due phase come =>
    rw [plain (by simp [batch?, phase])]
    obtain ⟨signal, current⟩ := present.inside c (by simp [cycle?, phase])
    have leads := beginAttempt_leads kept calm signal present.go current
    simpa [rest, steps, phase] using leads
  | dies message heard => exact absurd heard (hears?_ne_panicked scripted)

end Worker

end MailRound.Poller
