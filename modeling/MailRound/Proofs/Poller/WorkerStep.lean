import MailRound.Proofs.Poller.Delivery
import MailRound.Proofs.Poller.Run

namespace MailRound

def Call.created? : Call → Option Account
  | .create a => some a
  | _ => none

/-- The accounts that fetchers were asked for, the oldest first. -/
def createdIn (calls : List Call) : List Account := calls.filterMap Call.created?

@[simp] theorem createdIn_nil : createdIn [] = [] := rfl

@[simp] theorem createdIn_append (xs ys : List Call) :
    createdIn (xs ++ ys) = createdIn xs ++ createdIn ys := List.filterMap_append

theorem mem_createdIn {calls : List Call} {a : Account} :
    a ∈ createdIn calls ↔ .create a ∈ calls := by
  rw [createdIn, List.mem_filterMap]
  constructor
  · rintro ⟨call, h, ha⟩
    cases call <;> simp_all [Call.created?]
  · exact fun h => ⟨_, h, rfl⟩

namespace Poller

variable {ω φ : Type}

inductive Event where
  /-- A fetcher is asked for, and is there unless this fails. -/
  | created (account : Account) (failure : Option Failure)
  | called (call : Call)
  | returned (failure : Option Failure)
  | panicked
  /-- A stop gives the worker up while a call is out. -/
  | abandoned

def Event.ofFate {α : Type} : Fate α → Event
  | .returns (.ok _) => .returned none
  | .returns (.error why) => .returned (some why)
  | .panics _ => .panicked

/-- What no step of a worker touches. -/
structure Shared.Stays (s s' : Shared ω) : Prop where
  defaults : s'.defaults = s.defaults
  cursor : s'.cursor = s.cursor
  pending : s'.pending = s.pending
  cycle : s'.cycle = s.cycle
  now : s'.now = s.now
  clock : s'.clock = s.clock

theorem Shared.Stays.trans {s s' s'' : Shared ω} (h : s.Stays s') (h' : s'.Stays s'') :
    s.Stays s'' :=
  ⟨h'.defaults.trans h.defaults, h'.cursor.trans h.cursor, h'.pending.trans h.pending,
    h'.cycle.trans h.cycle, h'.now.trans h.now, h'.clock.trans h.clock⟩

/-- The calls that a step makes and the messages that it delivers. -/
structure Shared.Effect (s : Shared ω) (made : List Call) (put : List Message) (s' : Shared ω) :
    Prop where
  stays : s.Stays s'
  calls : s'.calls = s.calls ++ made
  queue : s'.queue = s.queue.putAll s.clock put
  delivered : s'.delivered = s.delivered.markAll (put.map (·.id))

/-- What is told and what becomes of the world is not followed. -/
theorem Shared.Effect.silent {s s' : Shared ω} (stays : s.Stays s') (calls : s'.calls = s.calls)
    (queue : s'.queue = s.queue) (delivered : s'.delivered = s.delivered) :
    s.Effect [] [] s' :=
  ⟨stays, by simp [calls], queue, by simp [delivered, Delivered.markAll]⟩

theorem Shared.Effect.trans {s s' s'' : Shared ω} {made made' : List Call}
    {put put' : List Message} (h : s.Effect made put s') (h' : s'.Effect made' put' s'') :
    s.Effect (made ++ made') (put ++ put') s'' where
  stays := h.stays.trans h'.stays
  calls := by rw [h'.calls, h.calls, List.append_assoc]
  queue := by rw [h'.queue, h.queue, h.stays.clock]; simp [Queue.putAll]
  delivered := by rw [h'.delivered, h.delivered]; simp [Delivered.markAll]

namespace Worker

/-- How the call that a worker waits for comes back with its next step. -/
def hears? (s : Shared ω) (w : Worker φ) : Option Event :=
  match w.phase with
  | .connecting _ f => if f.due ≤ s.now then some (.ofFate f.fate) else none
  | .fetching _ f => if f.due ≤ s.now then some (.ofFate f.fate) else none
  | .marking _ f _ => if f.due ≤ s.now then some (.ofFate f.fate) else none
  | .disconnecting _ f _ => if f.due ≤ s.now then some (.ofFate f.fate) else none
  | _ => none

/-- The end of a step inside a cycle: the cycle is over, or goes on for the same selection. -/
inductive Goes (s : Shared ω) (w : Worker φ) (c : Cycle) (r : Step ω φ) : Prop
  | rests (self : r.2 = { w with phase := .idle })
    (flag : r.1.processing = if !w.signal && !w.stop then false else s.processing)
  | goesOn (phase : Phase φ) (c' : Cycle) (self : r.2 = { w with phase := phase })
    (inside : r.2.cycle? = some c') (account : c'.account = c.account)
    (generation : c'.generation = c.generation) (flag : r.1.processing = s.processing)

structure Does (s : Shared ω) (w : Worker φ) (c : Cycle) (made : List Call) (put : List Message)
    (r : Step ω φ) : Prop where
  effect : s.Effect made put r.1
  goes : Goes s w c r

theorem Does.after {s s' : Shared ω} {w : Worker φ} {c : Cycle} {made made' : List Call}
    {put put' : List Message} {r : Step ω φ} (h : Does s' w c made' put' r)
    (effect : s.Effect made put s') (flag : s'.processing = s.processing) :
    Does s w c (made ++ made') (put ++ put') r := by
  refine ⟨effect.trans h.effect, ?_⟩
  cases h.goes with
  | rests self f => exact .rests self (by rw [f, flag])
  | goesOn phase c' self inside account generation f =>
    exact .goesOn phase c' self inside account generation (f.trans flag)

variable (m : Mailboxes ω φ) (s : Shared ω) (w : Worker φ) (c : Cycle) (fetcher : φ)

theorem inform_effect (level : Log.Level) (text : String) : s.Effect [] [] (s.inform level text) :=
  .silent ⟨rfl, rfl, rfl, rfl, rfl, rfl⟩ rfl rfl rfl

theorem launch_effect {α : Type} (call : Call) (r : Reply ω φ α) :
    s.Effect [call] [] (s.launch call r).1 :=
  ⟨⟨rfl, rfl, rfl, rfl, rfl, rfl⟩, rfl, rfl, by simp [Delivered.markAll, Shared.launch,
    Shared.record]⟩

theorem finishCycle_does : Does s w c [] [] (finishCycle s w) :=
  ⟨.silent ⟨rfl, rfl, rfl, rfl, rfl, rfl⟩ rfl rfl rfl, .rests rfl rfl⟩

theorem finishCycle_inform_does (level : Log.Level) (text : String) :
    Does s w c [] [] (finishCycle (s.inform level text) w) :=
  (finishCycle_does _ w c).after (inform_effect s level text) rfl

theorem pause_does (again : Prop) [Decidable again] (text : String) (count due : Nat) :
    Does s w c [] [] (if again then
      (s.inform .debug text, { w with phase := .pausing { c with attempts := count } due })
      else finishCycle s w) := by
  by_cases h : again
  · rw [if_pos h]
    exact ⟨inform_effect s .debug text, .goesOn _ _ rfl rfl rfl rfl rfl⟩
  · rw [if_neg h]
    exact finishCycle_does s w c

theorem afterAttempt_does (result : Attempt) : Does s w c [] [] (afterAttempt s w c result) := by
  cases result with
  | done => exact pause_does s w c _ _ _ _
  | superseded => exact finishCycle_inform_does s w c _ _
  | failed why =>
    -- All failures but an unknown provider count as an attempt.
    have counts (text : String) (again : Prop) [Decidable again] (told : String)
        (count due : Nat) :=
      (pause_does (s.inform .error text) w c again told count due).after
        (inform_effect s .error text) rfl
    cases why with
    | unknownProvider tag => exact finishCycle_inform_does s w c _ _
    | _ => exact counts _ _ _ _ _

/-- An attempt asks for a fetcher exactly if the cycle is still wanted and has attempts left, and
connects the fetcher that it is given. -/
theorem beginAttempt_cases :
    ((c.polling s).maxPollCount ≤ c.attempts ∨ w.stop = true ∨ s.cycle ≠ c.generation) ∧
        (∃ s', s.Effect [] [] s' ∧ s'.processing = s.processing ∧
          beginAttempt m s w c = finishCycle s' w) ∨
      (c.attempts < (c.polling s).maxPollCount ∧ w.stop = false ∧ s.cycle = c.generation) ∧
        ∃ s', s.Effect [.create c.account] [] s' ∧ s'.processing = s.processing ∧
          ((∃ why, (m.create s.world c.account).2.2 = .error why ∧
              beginAttempt m s w c = afterAttempt s' w c (.failed why)) ∨
            ∃ fetcher reply, (m.create s.world c.account).2.2 = .ok fetcher ∧
              beginAttempt m s w c = ((s'.launch (.connect c.account) reply).1,
                { w with
                  phase := .connecting c (s'.launch (.connect c.account) reply).2 })) := by
  unfold beginAttempt
  dsimp only
  by_cases spent : (c.polling s).maxPollCount ≤ c.attempts ∨ w.stop = true
  · rw [if_pos spent]
    exact .inl
      ⟨spent.imp_right .inl, s, .silent ⟨rfl, rfl, rfl, rfl, rfl, rfl⟩ rfl rfl rfl, rfl, rfl⟩
  · rw [if_neg spent]
    obtain ⟨left, go⟩ : c.attempts < (c.polling s).maxPollCount ∧ w.stop = false := by
      simpa using spent
    by_cases stale : s.cycle ≠ c.generation
    · rw [if_pos stale]
      exact .inl ⟨.inr (.inr stale), _, inform_effect s _ _, rfl, rfl⟩
    · rw [if_neg stale]
      have asked (text : String) (world : ω) (log : List Log.Event) :
          s.Effect [.create c.account] []
            { (s.inform .info text).record (.create c.account) with world := world, log := log } :=
        ⟨⟨rfl, rfl, rfl, rfl, rfl, rfl⟩, rfl, rfl, by simp [Delivered.markAll, Shared.record,
          Shared.inform, Shared.note]⟩
      refine .inr ⟨⟨left, go, not_not.1 stale⟩, ?_⟩
      split
      · rename_i world log why answer
        exact ⟨_, asked _ _ _, rfl, .inl ⟨why, congrArg (·.2.2) answer, rfl⟩⟩
      · rename_i world log fetcher answer
        exact ⟨_, asked _ _ _, rfl, .inr ⟨fetcher, _, congrArg (·.2.2) answer, rfl⟩⟩

theorem beginAttempt_does :
    Does s w c [] [] (beginAttempt m s w c) ∧ (beginAttempt m s w c).2.phase = .idle ∨
      w.stop = false ∧ s.cycle = c.generation ∧ ∃ made, Does s w c made [] (beginAttempt m s w c) ∧
        (made = [.create c.account] ∨ made = [.create c.account, .connect c.account]) := by
  obtain ⟨-, s', silent, flag, same⟩ | ⟨⟨-, go, current⟩, s', asked, flag, answer⟩ :=
    beginAttempt_cases m s w c
  · rw [same]
    exact .inl ⟨(finishCycle_does s' w c).after silent flag, rfl⟩
  · refine .inr ⟨go, current, ?_⟩
    obtain ⟨why, -, same⟩ | ⟨fetcher, reply, -, same⟩ := answer
    · rw [same]
      exact ⟨_, (afterAttempt_does s' w c _).after asked flag, .inl rfl⟩
    · rw [same]
      exact ⟨_, ⟨asked.trans (launch_effect s' _ _), .goesOn _ _ rfl rfl rfl rfl flag⟩, .inr rfl⟩

theorem beginDisconnect_does (result : Attempt) :
    Does s w c [.disconnect c.account] [] (beginDisconnect m s w c fetcher result) :=
  ⟨launch_effect s _ _, .goesOn _ _ rfl rfl rfl rfl rfl⟩

theorem afterConnect_does (result : Outcome Unit) :
    ∃ made, Does s w c made [] (afterConnect m s w c fetcher result) ∧
      (made = [.disconnect c.account] ∨ made = [.fetch c.account (c.criteria s)]) := by
  cases result with
  | error why => exact ⟨_, beginDisconnect_does m s w c fetcher _, .inl rfl⟩
  | ok _ => exact ⟨_, ⟨launch_effect s _ _, .goesOn _ _ rfl rfl rfl rfl rfl⟩, .inr rfl⟩

theorem afterMark_does (e : Enqueued) (result : Outcome Unit) :
    Does s w c [.disconnect c.account] [] (afterMark m s w c fetcher e result) := by
  have told (level : Log.Level) (text : String) :=
    (beginDisconnect_does m (processedNote (s.inform level text) c e) w c fetcher .done).after
      ((inform_effect s level text).trans (inform_effect _ .info _)) rfl
  cases result with
  | error why => exact told _ _
  | ok _ => exact told _ _

theorem afterFetch_error_does (why : Failure) :
    Does s w c [.disconnect c.account] [] (afterFetch m s w c fetcher (.error why)) :=
  beginDisconnect_does m s w c fetcher _

theorem afterFetch_stale_does (stale : s.cycle ≠ c.generation) (batch : List Message) :
    Does s w c [.disconnect c.account] [] (afterFetch m s w c fetcher (.ok batch)) := by
  cases batch with
  | nil => exact (beginDisconnect_does m _ w c fetcher _).after (inform_effect s _ _) rfl
  | cons x xs =>
    have dropped (text : String) :=
      Shared.enqueueBatch_of_stale (s := s.inform .info text) stale c.account (x :: xs)
    simp only [afterFetch, dropped, if_true]
    exact (beginDisconnect_does m _ w c fetcher _).after (inform_effect s _ _) rfl

/-- A batch that comes in time is delivered. What is new in it is marked if that is asked for, and
otherwise the attempt goes straight to its end. -/
theorem afterFetch_current_cases (current : s.cycle = c.generation) (batch : List Message) :
    ∃ s', s.Effect [] (s.delivered.fresh batch) s' ∧ s'.processing = s.processing ∧
      ((c.account.criteria.markAsRead = true → s.delivered.fresh batch = []) ∧
          afterFetch m s w c fetcher (.ok batch) = beginDisconnect m s' w c fetcher .done ∨
        (c.account.criteria.markAsRead = true ∧ s.delivered.fresh batch ≠ []) ∧
          ∃ e reply, afterFetch m s w c fetcher (.ok batch) =
            ((s'.launch (.markRead c.account ((s.delivered.fresh batch).map (·.id))) reply).1,
              { w with
                phase := .marking c (s'.launch (.markRead c.account
                  ((s.delivered.fresh batch).map (·.id))) reply).2 e })) := by
  cases batch with
  | nil => exact ⟨_, inform_effect s _ _, rfl, .inl ⟨fun _ => rfl, rfl⟩⟩
  | cons x xs =>
    obtain ⟨log, enqueued⟩ := Shared.enqueueBatch_of_current (s := s.inform .info (c.label ++
      " Fetched " ++ Text.decimal (x :: xs).length ++ " new email(s).")) current c.account (x :: xs)
    let taken : Shared ω :=
      { s with
        delivered := s.delivered.markAll ((s.delivered.fresh (x :: xs)).map (·.id))
        queue := s.queue.putAll s.clock (s.delivered.fresh (x :: xs))
        log := log }
    have delivers : s.Effect [] (s.delivered.fresh (x :: xs)) taken :=
      ⟨⟨rfl, rfl, rfl, rfl, rfl, rfl⟩, (List.append_nil _).symm, rfl, rfl⟩
    simp only [afterFetch, enqueued, Bool.false_eq_true, if_false]
    by_cases marked : c.account.criteria.markAsRead = true ∧ s.delivered.fresh (x :: xs) ≠ []
    · have ids : (s.delivered.fresh (x :: xs)).map (·.id) ≠ [] := by simpa using marked.2
      refine ⟨taken, delivers, rfl, .inr ⟨marked, ?_⟩⟩
      simp only [Shared.inform, Shared.note, marked.1, if_true, ids, if_false]
      exact ⟨_, _, rfl⟩
    · have unmarked : c.account.criteria.markAsRead = true →
          s.delivered.fresh (x :: xs) = [] := by simpa using marked
      have none : (if c.account.criteria.markAsRead = true then
          (s.delivered.fresh (x :: xs)).map (·.id) else []) = [] := by
        split
        · rename_i asked
          rw [unmarked asked]
          rfl
        · rfl
      simp only [Shared.inform, Shared.note, none, if_true]
      have told := delivers.trans (inform_effect taken .info (c.label ++ " Processed " ++
        Text.decimal (s.delivered.fresh (x :: xs)).length ++ " new emails."))
      simp only [List.append_nil] at told
      exact ⟨_, told, rfl, .inl ⟨unmarked, rfl⟩⟩

theorem afterFetch_current_does (current : s.cycle = c.generation) (batch : List Message) :
    ∃ made, Does s w c made (s.delivered.fresh batch) (afterFetch m s w c fetcher (.ok batch)) ∧
      (made = [.disconnect c.account] ∨
        made = [.markRead c.account ((s.delivered.fresh batch).map (·.id))]) := by
  obtain ⟨s', delivers, flag, ⟨-, same⟩ | ⟨-, e, reply, same⟩⟩ :=
    afterFetch_current_cases m s w c fetcher current batch
  · have h := (beginDisconnect_does m s' w c fetcher .done).after delivers flag
    rw [List.append_nil] at h
    rw [same]
    exact ⟨_, h, .inl rfl⟩
  · have h := delivers.trans (launch_effect s' (.markRead c.account
      ((s.delivered.fresh batch).map (·.id))) reply)
    rw [List.append_nil] at h
    rw [same]
    exact ⟨_, ⟨h, .goesOn _ _ rfl rfl rfl rfl flag⟩, .inr rfl⟩

/-- How a step goes, by where the worker was. -/
inductive Turn (s : Shared ω) (w : Worker φ) (made : List Call) (put : List Message)
    (r : Step ω φ) : Prop
  | wakes (fresh : w.phase = .fresh) (self : r.2 = { w with phase := .idle })
    (flag : r.1.processing = s.processing) (quiet : made = []) (empty : put = [])
  | exits (idle : w.phase = .idle) (why : w.stop = true ∨ w.closed = true)
    (self : r.2 = { w with phase := .exited }) (flag : r.1.processing = s.processing)
    (quiet : made = []) (empty : put = [])
  /-- A signal with no account selected. -/
  | skips (idle : w.phase = .idle) (go : w.stop = false) (signal : w.signal = true)
    (unselected : s.cursor.current? = none)
    (self : r.2 = { w with signal := false, phase := .idle })
    (flag : r.1.processing = false) (quiet : made = []) (empty : put = [])
  | begins (account : Account) (selected : w.begins? s = some account)
    (goes : Goes s { w with signal := false } ⟨account, s.cycle, 0⟩ r)
    (calls : made = [] ∧ r.2.phase = .idle ∨ made = [.create account] ∨
      made = [.create account, .connect account]) (empty : put = [])
  /-- A fetch comes back with a batch. -/
  | lands (c : Cycle) (batch : List Message) (fetched : w.batch? s = some (c, batch))
    (goes : Goes s w c r)
    (taken : s.cycle = c.generation ∧ put = s.delivered.fresh batch ∧
        (made = [.disconnect c.account] ∨ made = [.markRead c.account (put.map (·.id))]) ∨
      s.cycle ≠ c.generation ∧ put = [] ∧ made = [.disconnect c.account])
  /-- Any other step inside a cycle; a fetcher is asked for only if the cycle is still wanted. -/
  | goesOn (c : Cycle) (inside : w.cycle? = some c) (other : w.batch? s = none)
    (goes : Goes s w c r)
    (calls : createdIn made = [] ∨
      createdIn made = [c.account] ∧ w.stop = false ∧ s.cycle = c.generation)
    (unmarked : ∀ a ids, .markRead a ids ∉ made) (empty : put = [])
  | dies (c : Cycle) (inside : w.cycle? = some c) (other : w.batch? s = none) (message : String)
    (self : r.2 = { w with phase := .panicked message }) (flag : r.1.processing = s.processing)
    (quiet : made = []) (empty : put = [])

theorem beginCycle_turn (idle : w.phase = .idle) (go : w.stop = false) (signal : w.signal = true) :
    ∃ made put, s.Effect made put (beginCycle m s { w with signal := false }).1 ∧
      Turn s w made put (beginCycle m s { w with signal := false }) := by
  cases selected : s.cursor.current? with
  | none =>
    refine ⟨[], [], ?_, ?_⟩
    · simp only [beginCycle, selected]
      exact (finishCycle_inform_does s { w with signal := false } ⟨default, 0, 0⟩ _ _).effect
    · simp only [beginCycle, selected]
      exact .skips idle go signal selected rfl (by simp [finishCycle, go]) rfl rfl
  | some account =>
    have begins : w.begins? s = some account := by simp [begins?, idle, go, signal, selected]
    have told : s.Effect [] [] ({ s with status := .processing account.id }.inform .info
        ("Processing account: " ++ account.displayEmail)) :=
      .silent ⟨rfl, rfl, rfl, rfl, rfl, rfl⟩ rfl rfl rfl
    simp only [beginCycle, selected]
    obtain ⟨does, rests⟩ | ⟨-, -, made, does, calls⟩ := beginAttempt_does m
      ({ s with status := .processing account.id }.inform .info
        ("Processing account: " ++ account.displayEmail)) { w with signal := false }
      ⟨account, s.cycle, 0⟩
    · have h := does.after told rfl
      exact ⟨[], [], h.effect, .begins account begins h.goes (.inl ⟨rfl, rests⟩) rfl⟩
    · have h := does.after told rfl
      exact ⟨made, [], h.effect, .begins account begins h.goes (.inr calls) rfl⟩

variable {m s w c} {r : Step ω φ}

/-- The steps of a worker: how each phase can end. -/
inductive Stepped (m : Mailboxes ω φ) (s : Shared ω) (w : Worker φ) : Step ω φ → Prop
  | wakes (phase : w.phase = .fresh) : Stepped m s w
    (s.inform .debug "Email poller worker entering idle state", { w with phase := .idle })
  | exits (phase : w.phase = .idle) (why : w.stop = true ∨ w.signal = false ∧ w.closed = true) :
    Stepped m s w (exit s w)
  | begins (phase : w.phase = .idle) (go : w.stop = false) (signal : w.signal = true) :
    Stepped m s w (beginCycle m s { w with signal := false })
  | connects (c : Cycle) (f : Flight φ Unit) (phase : w.phase = .connecting c f)
    (due : f.due ≤ s.now) (result : Outcome Unit) (back : f.fate = .returns result) :
    Stepped m s w (afterConnect m s w c f.fetcher result)
  | fetches (c : Cycle) (f : Flight φ (List Message)) (phase : w.phase = .fetching c f)
    (due : f.due ≤ s.now) (result : Outcome (List Message)) (back : f.fate = .returns result) :
    Stepped m s w (afterFetch m s w c f.fetcher result)
  | marks (c : Cycle) (f : Flight φ Unit) (e : Enqueued) (phase : w.phase = .marking c f e)
    (due : f.due ≤ s.now) (result : Outcome Unit) (back : f.fate = .returns result) :
    Stepped m s w (afterMark m s w c f.fetcher e result)
  | disconnects (c : Cycle) (f : Flight φ Unit) (result : Attempt)
    (phase : w.phase = .disconnecting c f result) (due : f.due ≤ s.now) (answer : Outcome Unit)
    (back : f.fate = .returns answer) : Stepped m s w (afterAttempt s w c result)
  | abandons (c : Cycle) (due : Nat) (phase : w.phase = .pausing c due)
    (why : w.stop = true ∨ s.cycle ≠ c.generation) : Stepped m s w (finishCycle s w)
  | again (c : Cycle) (due : Nat) (phase : w.phase = .pausing c due) (come : due ≤ s.now) :
    Stepped m s w (beginAttempt m s w c)
  | dies (message : String) (heard : w.hears? s = some .panicked) :
    Stepped m s w (die s w message)

theorem land_cases {α : Type} {f : Flight φ α} {go : φ → Outcome α → Step ω φ}
    (h : land s w f go = some r) : f.due ≤ s.now ∧
      ((∃ result, f.fate = .returns result ∧ r = go f.fetcher result) ∨
        ∃ message, f.fate = .panics message ∧ r = die s w message) := by
  unfold land at h
  split at h
  · rename_i due
    refine ⟨due, ?_⟩
    split at h
    · rename_i result fate
      exact .inl ⟨result, fate, (Option.some.inj h).symm⟩
    · rename_i message fate
      exact .inr ⟨message, fate, (Option.some.inj h).symm⟩
  · cases h

theorem land_stepped {α : Type} {f : Flight φ α} {go : φ → Outcome α → Step ω φ}
    (out : w.hears? s = if f.due ≤ s.now then some (.ofFate f.fate) else none)
    (back : f.due ≤ s.now → ∀ result, f.fate = .returns result →
      Stepped m s w (go f.fetcher result))
    (h : land s w f go = some r) : Stepped m s w r := by
  obtain ⟨due, ⟨result, fate, rfl⟩ | ⟨message, fate, rfl⟩⟩ := land_cases h
  · exact back due result fate
  · refine .dies message ?_
    rw [out, if_pos due, fate]
    rfl

theorem step_cases (h : w.step m s = some r) : Stepped m s w r := by
  unfold step at h
  cases phase : w.phase with
  | fresh =>
    simp only [phase, Option.some.injEq] at h
    exact h ▸ .wakes phase
  | idle =>
    simp only [phase] at h
    split at h
    · rename_i stop
      exact Option.some.inj h ▸ .exits phase (.inl stop)
    · rename_i go
      split at h
      · rename_i signal
        exact Option.some.inj h ▸ .begins phase (by simpa using go) signal
      · rename_i silent
        split at h
        · rename_i closed
          exact Option.some.inj h ▸ .exits phase (.inr ⟨by simpa using silent, closed⟩)
        · cases h
  | connecting c f =>
    simp only [phase] at h
    exact land_stepped (by rw [hears?, phase]) (.connects c f phase) h
  | fetching c f =>
    simp only [phase] at h
    exact land_stepped (by rw [hears?, phase]) (.fetches c f phase) h
  | marking c f e =>
    simp only [phase] at h
    exact land_stepped (by rw [hears?, phase]) (.marks c f e phase) h
  | disconnecting c f result =>
    simp only [phase] at h
    exact land_stepped (by rw [hears?, phase]) (.disconnects c f result phase) h
  | pausing c due =>
    simp only [phase] at h
    split at h
    · rename_i why
      exact Option.some.inj h ▸ .abandons c due phase why
    · split at h
      · rename_i come
        exact Option.some.inj h ▸ .again c due phase come
      · cases h
  | exited => simp [phase] at h
  | panicked message => simp [phase] at h

/-- A call that takes a worker down is one of a cycle, and brings no batch. -/
theorem inside_of_panicked (heard : w.hears? s = some .panicked) :
    (∃ c, w.cycle? = some c) ∧ w.batch? s = none := by
  unfold hears? at heard
  cases phase : w.phase with
  | fetching c f =>
    refine ⟨⟨c, by simp [cycle?, phase]⟩, ?_⟩
    simp only [phase] at heard
    split at heard
    · cases fate : f.fate with
      | returns result =>
        rw [fate] at heard
        cases result <;> cases heard
      | panics message => simp [batch?, phase, fate]
    · cases heard
  | _ => simp_all [cycle?, batch?]

theorem step_of_panicked (heard : w.hears? s = some .panicked) (h : w.step m s = some r) :
    r.1 = s := by
  have back {α : Type} {f : Flight φ α} {result : Outcome α} (fate : f.fate = .returns result)
      (out : w.hears? s = some (.ofFate f.fate)) : False := by
    rw [heard, fate] at out
    cases result <;> cases out
  cases step_cases h with
  | dies message heard => rfl
  | connects c f phase due result fate => exact (back fate (by simp [hears?, phase, due])).elim
  | fetches c f phase due result fate => exact (back fate (by simp [hears?, phase, due])).elim
  | marks c f e phase due result fate => exact (back fate (by simp [hears?, phase, due])).elim
  | disconnects c f result phase due answer fate =>
    exact (back fate (by simp [hears?, phase, due])).elim
  | wakes phase => simp [hears?, phase] at heard
  | exits phase why => simp [hears?, phase] at heard
  | begins phase go signal => simp [hears?, phase] at heard
  | abandons c due phase why => simp [hears?, phase] at heard
  | again c due phase come => simp [hears?, phase] at heard

theorem Does.turn {made : List Call} (inside : w.cycle? = some c)
    (other : w.batch? s = none) (h : Does s w c made [] r)
    (calls : createdIn made = [] ∨
      createdIn made = [c.account] ∧ w.stop = false ∧ s.cycle = c.generation)
    (unmarked : ∀ a ids, .markRead a ids ∉ made) :
    ∃ made put, s.Effect made put r.1 ∧ Turn s w made put r :=
  ⟨made, [], h.effect, .goesOn c inside other h.goes calls unmarked rfl⟩

theorem afterFetch_turn (f : Flight φ (List Message)) (phase : w.phase = .fetching c f)
    (due : f.due ≤ s.now) {result : Outcome (List Message)} (back : f.fate = .returns result) :
    ∃ made put, s.Effect made put (afterFetch m s w c f.fetcher result).1 ∧
      Turn s w made put (afterFetch m s w c f.fetcher result) := by
  cases result with
  | error why =>
    exact (afterFetch_error_does m s w c f.fetcher why).turn (by simp [cycle?, phase])
      (by simp [batch?, phase, back]) (.inl rfl) (by simp)
  | ok batch =>
    have fetched : w.batch? s = some (c, batch) := by simp [batch?, phase, back, due]
    by_cases current : s.cycle = c.generation
    · obtain ⟨made, does, calls⟩ := afterFetch_current_does m s w c f.fetcher current batch
      exact ⟨made, _, does.effect, .lands c batch fetched does.goes (.inl ⟨current, rfl, calls⟩)⟩
    · have does := afterFetch_stale_does m s w c f.fetcher current batch
      exact ⟨_, _, does.effect, .lands c batch fetched does.goes (.inr ⟨current, rfl, rfl⟩)⟩

/-- Every step of a worker is one of the turns. -/
theorem step_turn (h : w.step m s = some r) :
    ∃ made put, s.Effect made put r.1 ∧ Turn s w made put r := by
  cases step_cases h with
  | wakes phase => exact ⟨_, _, inform_effect s _ _, .wakes phase rfl rfl rfl rfl⟩
  | exits phase why =>
    exact ⟨_, _, .silent ⟨rfl, rfl, rfl, rfl, rfl, rfl⟩ rfl rfl rfl,
      .exits phase (why.imp_right And.right) rfl rfl rfl rfl⟩
  | begins phase go signal => exact beginCycle_turn m s w phase go signal
  | connects c f phase due result back =>
    obtain ⟨made, does, calls⟩ := afterConnect_does m s w c f.fetcher result
    refine does.turn (by simp [cycle?, phase]) (by simp [batch?, phase]) (.inl ?_) ?_
    · obtain rfl | rfl := calls <;> rfl
    · obtain rfl | rfl := calls <;> simp
  | fetches c f phase due result back => exact afterFetch_turn f phase due back
  | marks c f e phase due result back =>
    exact (afterMark_does m s w c f.fetcher e result).turn (by simp [cycle?, phase])
      (by simp [batch?, phase]) (.inl rfl) (by simp)
  | disconnects c f result phase due answer back =>
    exact (afterAttempt_does s w c result).turn (by simp [cycle?, phase])
      (by simp [batch?, phase]) (.inl rfl) (by simp)
  | abandons c due phase why =>
    exact (finishCycle_does s w c).turn (by simp [cycle?, phase]) (by simp [batch?, phase])
      (.inl rfl) (by simp)
  | again c due phase come =>
    have inside : w.cycle? = some c := by simp [cycle?, phase]
    have other : w.batch? s = none := by simp [batch?, phase]
    obtain ⟨does, -⟩ | ⟨go, current, made, does, calls⟩ := beginAttempt_does m s w c
    · exact does.turn inside other (.inl rfl) (by simp)
    · refine does.turn inside other (.inr ⟨?_, go, current⟩) ?_
      · obtain rfl | rfl := calls <;> rfl
      · obtain rfl | rfl := calls <;> simp
  | dies message heard =>
    obtain ⟨⟨c, inside⟩, other⟩ := inside_of_panicked heard
    exact ⟨_, _, .silent ⟨rfl, rfl, rfl, rfl, rfl, rfl⟩ rfl rfl rfl,
      .dies c inside other message rfl rfl rfl rfl⟩

end Worker

end Poller

end MailRound
