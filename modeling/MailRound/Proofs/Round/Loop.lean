import MailRound.Proofs.Poller.Completion
import MailRound.Proofs.Poller.Freshness
import MailRound.Proofs.Poller.Selection
import MailRound.Proofs.Round.Resume

namespace MailRound.Poller

variable {ω φ : Type}

/-- Where the loop is. -/
inductive Spot where
  | waiting
  /-- After a wait that has timed out, until the queue is found empty. -/
  | looking
  /-- After a wait that has succeeded, until the queue is found empty. -/
  | closing
  | selecting
  | ended
  deriving DecidableEq

/-- What goes on beside the caller. -/
def Move.beside : Move → Bool
  | .work | .pass _ | .setClock _ | .tell _ => true
  | _ => false

/-- The histories of the loop, with the place it has come to. -/
inductive Loop (m : Mailboxes ω φ) (start : System ω φ) : History ω φ → System ω φ → Spot → Prop
  | starts {s} (step : System.Step m start (.start true) s) :
    Loop m start [⟨.start true, start, s⟩] s .waiting
  | beside {h s spot move s'} (past : Loop m start h s spot) (going : spot ≠ .ended)
    (outer : move.beside = true) (step : System.Step m s move s') :
    Loop m start (⟨move, s, s'⟩ :: h) s' spot
  | timesOut {h s s'} (limit : Nat) (past : Loop m start h s .waiting)
    (step : System.Step m s (.waitTimesOut limit) s') :
    Loop m start (⟨.waitTimesOut limit, s, s'⟩ :: h) s' .looking
  | completes {h s s'} (past : Loop m start h s .waiting) (step : System.Step m s .waitEnds s') :
    Loop m start (⟨.waitEnds, s, s'⟩ :: h) s' .closing
  | takes {h s spot s' x} (past : Loop m start h s spot)
    (draining : spot = .looking ∨ spot = .closing) (step : System.Step m s .getMessage s')
    (taken : s.poller.getMessage.1 = some x) :
    Loop m start (⟨.getMessage, s, s'⟩ :: h) s' spot
  | looked {h s s'} (past : Loop m start h s .looking) (step : System.Step m s .getMessage s')
    (empty : s.poller.getMessage.1 = none) :
    Loop m start (⟨.getMessage, s, s'⟩ :: h) s' .waiting
  | closed {h s s'} (past : Loop m start h s .closing) (step : System.Step m s .getMessage s')
    (empty : s.poller.getMessage.1 = none) :
    Loop m start (⟨.getMessage, s, s'⟩ :: h) s' .selecting
  | selects {h s s'} (past : Loop m start h s .selecting) (step : System.Step m s .next s')
    (more : s.poller.next.1 = true) : Loop m start (⟨.next, s, s'⟩ :: h) s' .waiting
  | ends {h s s'} (past : Loop m start h s .selecting) (step : System.Step m s .next s')
    (none : s.poller.next.1 = false) : Loop m start (⟨.next, s, s'⟩ :: h) s' .ended

def Move.strides : Move → Bool
  | .work | .next => true
  | _ => false

def History.strides (h : History ω φ) : Nat := h.countP (·.move.strides)

theorem Loop.run {m : Mailboxes ω φ} {start s : System ω φ} {h : History ω φ} {spot : Spot}
    (loop : Loop m start h s spot) : System.Run m start h s := by
  induction loop with
  | starts step => exact .cons .nil step
  | beside past going outer step ih => exact .cons ih step
  | timesOut limit past step ih => exact .cons ih step
  | completes past step ih => exact .cons ih step
  | takes past draining step taken ih => exact .cons ih step
  | looked past step empty ih => exact .cons ih step
  | closed past step empty ih => exact .cons ih step
  | selects past step more ih => exact .cons ih step
  | ends past step none ih => exact .cons ih step

theorem strides_cons (t : Transition ω φ) (h : History ω φ) :
    History.strides (t :: h) = h.strides + t.move.strides.toNat := by
  rw [History.strides, List.countP_cons, History.strides]
  cases t.move.strides <;> rfl

namespace Worker

variable {s : Shared Script.Scripts} {w : Worker φ} {r : Step Script.Scripts φ} {made : List Call}
  {put : List Message}

/-- After a step the flag is up only if there is something to do, and a cycle is a present one. -/
structure Attends (s : Shared Script.Scripts) (r : Step Script.Scripts φ) : Prop where
  busy : r.1.processing = true → r.2.cycle?.isSome = true ∨ r.2.signal = true
  inside : ∀ d, r.2.cycle? = some d → r.2.signal = false ∧ s.cycle = d.generation

theorem Advances.attends {a : Account} (advances : Advances a s.cycle r) : Attends s r := by
  obtain ⟨signal, ⟨c, inside, -, generation, -⟩ | ⟨idle, flag⟩⟩ := advances
  · refine ⟨fun _ => .inl (by rw [inside]; rfl), fun d within => ⟨signal, ?_⟩⟩
    rw [← Option.some.inj (inside.symm.trans within), generation]
  · refine ⟨fun up => ?_, fun d within => ?_⟩
    · rw [flag] at up
      cases up
    · simp [cycle?, idle] at within

theorem finished_of_scripted {w : Worker Script.Step} (scripted : w.Scripted)
    (here : w.phase ≠ .exited) : w.finished = false := by
  unfold finished
  split
  · contradiction
  · rename_i message panicked
    simp [Scripted, panicked] at scripted
  · rfl

/-- A present worker takes its signal when it begins a cycle, and at no other time. -/
theorem Turn.attends (turn : Turn s w made put r) (fits : w.Fits s) (present : w.Present s)
    (busy : s.processing = true → w.cycle?.isSome = true ∨ w.signal = true)
    (alive : r.2.finished = false) :
    Attends s r ∧ r.2.signal = if (w.begins? s).isSome then false else w.signal := by
  have within {c : Cycle} (inside : w.cycle? = some c) (goes : Goes s w c r) :
      Attends s r ∧ r.2.signal = if (w.begins? s).isSome then false else w.signal := by
    obtain ⟨signal, current⟩ := present.inside c inside
    have advances := goes.advances present.go signal (fits.current c inside current.symm).2.2
    rw [← current] at advances
    refine ⟨advances.attends, ?_⟩
    rw [begins?_of_cycle? inside, signal, advances.1]
    rfl
  cases turn with
  | wakes fresh self flag quiet empty =>
    refine ⟨⟨fun up => ?_, fun d inside => ?_⟩, ?_⟩
    · rw [flag] at up
      obtain inside | signal := busy up
      · simp [cycle?, fresh] at inside
      · exact .inr (by rw [self]; exact signal)
    · simp [self, cycle?] at inside
    · simp [self, begins?, fresh]
  | exits idle why self flag quiet empty =>
    rw [present.go, present.opened] at why
    simp at why
  | skips idle go signal unselected self flag quiet empty =>
    have selected := present.signalled signal
    rw [unselected] at selected
    cases selected
  | begins account selected goes calls empty =>
    obtain ⟨-, -, signal, chosen⟩ := begins?_eq_some.1 selected
    have up := fits.signalled signal (by rw [chosen]; rfl)
    have advances := goes.advances present.go rfl up
    exact ⟨advances.attends, by simp [advances.1, selected]⟩
  | lands c batch fetched goes taken => exact within (cycle?_of_batch? fetched) goes
  | goesOn c inside other goes calls unmarked empty => exact within inside goes
  | dies c inside other message self flag quiet empty => simp [self, finished] at alive

/-- A cycle that begins takes the signal, so its account goes from queued to begun. -/
theorem begins?_append_queued? {w' : Worker φ}
    (signal : w'.signal = if (w.begins? s).isSome then false else w.signal) :
    (w.begins? s).toList ++ (w'.queued? s.cursor.current?).toList =
      (w.queued? s.cursor.current?).toList := by
  cases begins : w.begins? s with
  | none =>
    rw [begins] at signal
    simp [queued?, signal]
  | some a =>
    obtain ⟨-, -, up, chosen⟩ := begins?_eq_some.1 begins
    rw [begins] at signal
    simp [queued?, signal, up, chosen]

theorem Turn.present (turn : Turn s w made put r) (stays : s.Stays r.1) (attends : Attends s r)
    (signal : r.2.signal = if (w.begins? s).isSome then false else w.signal)
    (present : w.Present s) : r.2.Present r.1 := by
  obtain ⟨-, stop, closed⟩ := turn.orders
  refine ⟨stop.trans present.go, closed.trans present.opened, ?_, ?_⟩
  · intro c inside
    rw [stays.cycle]
    exact attends.inside c inside
  · intro up
    rw [stays.cursor]
    refine present.signalled ?_
    rw [up] at signal
    split at signal
    · cases signal
    · exact signal.symm

end Worker

/-- What holds on the way: with the messages handed out and those in the queue as kept, the plain
program has `final` before it. -/
structure OnWay (defaults : Polling) (plan : List Account) (final : Plain.Mail)
    (h : History Script.Scripts Script.Step) (s : System Script.Scripts Script.Step) (spot : Spot)
    (w : Worker Script.Step) : Prop where
  free : s.stopping = none
  here : s.poller.worker = some w
  scripted : w.Scripted
  present : w.Present s.shared
  calm : Script.Calm s.shared.world
  settings : s.shared.defaults = defaults
  accounts : s.shared.cursor.accounts = plan
  ids : s.shared.delivered.ids = (h.handed ++ s.shared.queue.messages).map (·.id)
  total : (plan.drop s.shared.cursor.place).foldl (Plain.poll defaults)
    (w.rest defaults s.shared.cursor.current? ⟨s.shared.world, h.handed ++ s.shared.queue.messages⟩)
      = final
  begun : h.begun ++ (w.queued? s.shared.cursor.current?).toList = plan.take s.shared.cursor.place
  busy : s.shared.processing = true → w.cycle?.isSome = true ∨ w.signal = true
  done : spot = .closing ∨ spot = .selecting → s.shared.processing = false
  drained : spot = .selecting → s.shared.queue.messages = []
  bound : h.strides + w.steps defaults s.shared.cursor.current? +
    Plain.cost defaults (plan.drop s.shared.cursor.place) ≤ Plain.cost defaults plan + 1

namespace OnWay

variable {m : Mailboxes Script.Scripts Script.Step} {defaults : Polling} {plan : List Account}
  {final : Plain.Mail} {h : History Script.Scripts Script.Step}
  {s s' : System Script.Scripts Script.Step} {spot spot' : Spot} {w : Worker Script.Step}

theorem at_spot (way : OnWay defaults plan final h s spot w)
    (done : spot' = .closing ∨ spot' = .selecting → s.shared.processing = false)
    (drained : spot' = .selecting → s.shared.queue.messages = []) :
    OnWay defaults plan final h s spot' w :=
  { way with done := done, drained := drained }

theorem selected {a : Account} (way : OnWay defaults plan final h s spot w)
    (current : s.shared.cursor.current? = some a) : a ∈ plan := by
  rw [← way.accounts]
  obtain ⟨i, -, found⟩ := Option.bind_eq_some_iff.1 current
  exact List.mem_of_getElem? found

theorem frame {t : Transition Script.Scripts Script.Step}
    (way : OnWay defaults plan final h t.before spot w) (free : t.after.stopping = none)
    (here : t.after.poller.worker = t.before.poller.worker)
    (world : t.after.shared.world = t.before.shared.world)
    (settings : t.after.shared.defaults = t.before.shared.defaults)
    (cursor : t.after.shared.cursor = t.before.shared.cursor)
    (delivered : t.after.shared.delivered = t.before.shared.delivered)
    (queue : t.after.shared.queue = t.before.shared.queue)
    (flag : t.after.shared.processing = t.before.shared.processing)
    (cycle : t.after.shared.cycle = t.before.shared.cycle) (begins : t.begins? = none)
    (handed : t.handed = []) (still : t.move.strides = false) :
    OnWay defaults plan final (t :: h) t.after spot w := by
  have same := handed_cons_of_nil (h := h) handed
  have before := begun_cons_of_none (h := h) begins
  refine ⟨free, here.trans way.here, way.scripted, ?_, ?_, settings.trans way.settings, ?_, ?_, ?_,
    ?_, ?_, ?_, ?_, ?_⟩
  · exact ⟨way.present.go, way.present.opened, by rw [cycle]; exact way.present.inside,
      by rw [cursor]; exact way.present.signalled⟩
  · rw [world]
    exact way.calm
  · rw [cursor]
    exact way.accounts
  · rw [same, delivered, queue]
    exact way.ids
  · rw [same, cursor, world, queue]
    exact way.total
  · rw [before, cursor]
    exact way.begun
  · rw [flag]
    exact way.busy
  · rw [flag]
    exact way.done
  · rw [queue]
    exact way.drained
  · rw [strides_cons, still, cursor]
    exact way.bound

/-- A step of the worker does its part of what is before the plain program. -/
theorem work {p : Poller Script.Scripts Script.Step} (sound : s.Sound)
    (way : OnWay defaults plan final h s spot w)
    (goes : s.poller.stepWorker Script.mailboxes = some p) :
    ∃ w', OnWay defaults plan final (⟨.work, s, { s with poller := p }⟩ :: h)
        { s with poller := p } spot w' ∧
      w'.rest defaults p.shared.cursor.current? ⟨p.shared.world, h.handed ++ p.shared.queue.messages⟩
        = w.rest defaults s.shared.cursor.current?
          ⟨s.shared.world, h.handed ++ s.shared.queue.messages⟩ ∧
      w'.steps defaults p.shared.cursor.current? <
        w.steps defaults s.shared.cursor.current? := by
  obtain ⟨v, ⟨shared, w'⟩, made, put, turned⟩ := sound.turned goes
  obtain ⟨active, -, same⟩ := turned.worked.active
  obtain rfl := Option.some.inj ((active?_of_worker way.here).symm.trans active)
  dsimp only at same
  subst same
  have effect := turned.effect
  have stays := effect.stays
  have fits := sound.installed w way.here
  have leads := Worker.step_leads turned.step turned.turn way.present way.scripted way.calm way.ids
  obtain ⟨attends, signal⟩ := turned.turn.attends fits way.present way.busy
    (Worker.finished_of_scripted leads.scripted (fits.turn effect turned.turn).here)
  have present := turned.turn.present stays attends signal way.present
  dsimp only at signal
  have here : p.worker = some w' := turned.worked.installs way.here
  have queue : p.shared.queue.messages = s.shared.queue.messages ++ put := by
    rw [effect.queue, Queue.putAll_messages]
  have handed : History.handed (⟨.work, s, { s with poller := p }⟩ :: h) = h.handed :=
    handed_cons_of_nil rfl
  have quiet (spot' : spot = .closing ∨ spot = .selecting) := turned.quiet sound (way.done spot')
  have cursor : p.shared.cursor = s.shared.cursor := stays.cursor
  have rest := leads.rest
  have steps := leads.steps
  have pos := Worker.steps_pos turned.step way.present
  have settings := way.settings
  dsimp only at rest steps
  rw [cursor, stays.defaults, settings] at rest steps
  rw [settings] at pos
  refine ⟨w', ⟨way.free, here, leads.scripted, present, leads.calm,
    stays.defaults.trans settings, ?_, ?_, ?_, ?_, attends.busy, fun spot' => (quiet spot').2.2,
    ?_, ?_⟩, ?_, ?_⟩
  · exact (congrArg _ cursor).trans way.accounts
  · rw [handed, System.shared, effect.delivered, queue, Delivered.markAll, way.ids]
    simp
  · rw [handed, System.shared, queue, cursor, ← List.append_assoc, rest]
    exact way.total
  · rw [begun_cons, turned.begins?, System.shared, cursor, List.append_assoc,
      Worker.begins?_append_queued? signal]
    exact way.begun
  · intro selecting
    rw [System.shared, queue, (quiet (.inr selecting)).2.1, List.append_nil]
    exact way.drained selecting
  · have bound := way.bound
    rw [strides_cons, System.shared, cursor]
    simp only [Move.strides, Bool.toNat_true]
    omega
  · rw [queue, cursor, ← List.append_assoc]
    exact rest
  · rw [cursor]
    omega

end OnWay

/-- Between two accounts: the worker rests, and the plain program goes on with the accounts that are
left. -/
structure Ready (defaults : Polling) (plan : List Account) (final : Plain.Mail)
    (handed : List Message) (begun : List Account) (strides : Nat)
    (p : Poller Script.Scripts Script.Step) (w : Worker Script.Step) : Prop where
  here : p.worker = some w
  outside : w.cycle? = none
  unsignalled : w.signal = false
  scripted : w.Scripted
  go : w.stop = false
  opened : w.closed = false
  calm : Script.Calm p.shared.world
  settings : p.shared.defaults = defaults
  accounts : p.shared.cursor.accounts = plan
  ids : p.shared.delivered.ids = handed.map (·.id)
  total : (plan.drop p.shared.cursor.place).foldl (Plain.poll defaults) ⟨p.shared.world, handed⟩ =
    final
  begun : begun = plan.take p.shared.cursor.place
  bound : strides + w.steps defaults p.shared.cursor.current? +
    Plain.cost defaults (plan.drop p.shared.cursor.place) ≤ Plain.cost defaults plan + 1

namespace Ready

variable {defaults : Polling} {plan : List Account} {final : Plain.Mail}
  {h : History Script.Scripts Script.Step} {s : System Script.Scripts Script.Step}
  {p : Poller Script.Scripts Script.Step} {result : Bool × Poller Script.Scripts Script.Step}
  {w : Worker Script.Step} {move : Move}

theorem signalled (ready : Ready defaults plan final h.handed h.begun h.strides p w)
    (selection : Selection p result) (more : result.1 = true)
    (handed : Transition.handed ⟨move, s, ⟨result.2, none⟩⟩ = [])
    (none : Transition.begins? ⟨move, s, ⟨result.2, none⟩⟩ = none) :
    OnWay defaults plan final (⟨move, s, ⟨result.2, Option.none⟩⟩ :: h) ⟨result.2, Option.none⟩
      .waiting { w with signal := true } := by
  cases selection with
  | exhausted log past => cases more
  | deferred log chosen absent =>
    rw [ready.here] at absent
    cases absent
  | signalled log chosen v here =>
    obtain rfl := Option.some.inj (ready.here.symm.trans here)
    obtain ⟨a, selected⟩ := Option.isSome_iff_exists.1 chosen
    obtain ⟨accounts, place, left, taken⟩ := Cursor.advance_of_some selected
    rw [ready.accounts] at accounts left taken
    have before := ready.begun
    have total := ready.total
    -- The account goes from those that are left to the one that is queued.
    rw [left, List.foldl_cons] at total
    have present : ({ w with signal := true } : Worker Script.Step).Present
        { p.advanced log with pending := false, processing := true } := by
      refine ⟨ready.go, ready.opened, ?_, fun _ => chosen⟩
      intro c inside
      have outside := ready.outside
      rw [show w.cycle? = some c from inside] at outside
      cases outside
    refine ⟨rfl, rfl, ready.scripted, present, ready.calm, ready.settings, accounts, ?_, ?_, ?_,
      fun _ => .inr rfl, by simp, by simp, ?_⟩
    · rw [handed_cons_of_nil handed]
      simpa [System.shared, advanced, Queue.clear] using ready.ids
    · rw [handed_cons_of_nil handed]
      simp only [advanced, Queue.clear, selected, place, List.append_nil,
        Worker.rest_of_signal ready.outside]
      exact total
    · rw [begun_cons_of_none none]
      simp only [advanced, selected, place, taken, before, Worker.queued?, if_true,
        Option.toList_some]
    · have bound := ready.bound
      have stride : (Move.strides move).toNat ≤ 1 := by cases move.strides <;> decide
      rw [left] at bound
      rw [strides_cons]
      simp only [advanced, selected, place, Worker.steps_of_signal ready.outside ready.unsignalled
        defaults p.shared.cursor.current?]
      simp only [Plain.cost] at bound ⊢
      omega

theorem exhausted {handed : List Message} {begun : List Account} {strides : Nat}
    (ready : Ready defaults plan final handed begun strides p w)
    (selection : Selection p result) (less : result.1 = false) :
    final = ⟨p.shared.world, handed⟩ ∧ begun = plan := by
  cases selection with
  | exhausted log past =>
    obtain ⟨-, behind⟩ := Cursor.advance_of_none past
    rw [ready.accounts] at behind
    have total := ready.total
    have before := ready.begun
    rw [List.drop_eq_nil_of_le behind] at total
    rw [List.take_of_length_le behind] at before
    exact ⟨total.symm, before⟩
  | deferred log chosen absent => cases less
  | signalled log chosen v here => cases less

end Ready

end MailRound.Poller
