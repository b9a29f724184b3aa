import MailRound.Proofs.Poller.Leg

namespace MailRound.Poller

variable {ω φ : Type}

def Event.call? : Event → Option Call
  | .created a _ => some (.create a)
  | .called call => some call
  | _ => none

/-- A call with what is known of it when it is made; a fetcher is there at once or not at all. -/
def Event.ofCall (m : Mailboxes ω φ) (world : ω) : Call → Event
  | .create a => .created a (match (m.create world a).2.2 with
    | .ok _ => none
    | .error why => some why)
  | call => .called call

@[simp] theorem Event.call?_ofCall (m : Mailboxes ω φ) (world : ω) (call : Call) :
    (Event.ofCall m world call).call? = some call := by
  cases call <;> rfl

@[simp] theorem Event.call?_ofFate {α : Type} (fate : Fate α) :
    (Event.ofFate fate).call? = none := by
  cases fate with
  | returns result => cases result <;> rfl
  | panics message => rfl

def connectingEvents (a : Account) : List Event := [.created a none, .called (.connect a)]

def fetchingEvents (a : Account) (criteria : Criteria) : List Event :=
  connectingEvents a ++ [.returned none, .called (.fetch a criteria)]

def markingEvents (a : Account) (criteria : Criteria) (ids : List String) : List Event :=
  fetchingEvents a criteria ++ [.returned none, .called (.markRead a ids)]

/-- The courses that an attempt can take, with the failure that it comes to. -/
inductive Course (a : Account) (criteria : Criteria) : List Event → Option Failure → Prop
  | refused (why : Failure) : Course a criteria [.created a (some why)] (some why)
  | unconnected (why : Failure) (back : Option Failure) : Course a criteria
    (connectingEvents a ++ [.returned (some why), .called (.disconnect a), .returned back])
    (some why)
  | unfetched (why : Failure) (back : Option Failure) : Course a criteria
    (fetchingEvents a criteria ++ [.returned (some why), .called (.disconnect a), .returned back])
    (some why)
  | fetched (back : Option Failure) : Course a criteria
    (fetchingEvents a criteria ++ [.returned none, .called (.disconnect a), .returned back]) none
  | marked (ids : List String) (answer back : Option Failure) : Course a criteria
    (markingEvents a criteria ids ++
      [.returned answer, .called (.disconnect a), .returned back]) none

/-- A part of an attempt that lacks its end. -/
def Unfinished (a : Account) (criteria : Criteria) (now : List Event) : Prop :=
  now ≠ [] ∧ ∃ rest failure, rest ≠ [] ∧ Course a criteria (now ++ rest) failure

/-- What a worker did for one selection. -/
structure Stint where
  account : Account
  events : List Event
  /-- A selection, a reset or a stop has come since it began. -/
  disturbed : Bool

namespace Stint

def calls (x : Stint) : List Call := x.events.filterMap Event.call?

def extend (x : Stint) (events : List Event) (disturbed : Bool) : Stint :=
  { x with events := x.events ++ events, disturbed := x.disturbed || disturbed }

/-- How many attempts there are to be: what the account says of its own, or else what the defaults
say. -/
def most (defaults : Polling) (x : Stint) : Nat :=
  (x.account.polling.bind (·.maxPollCount)).getD defaults.maxPollCount

/-- What is fetched: the account's own criteria with the number of messages to ask for, which the
account may say too. -/
def criteria (defaults : Polling) (x : Stint) : Criteria :=
  { x.account.criteria with
    maxEmails := some
      ((x.account.polling.bind (·.maxEmailsPerPoll)).getD defaults.maxEmailsPerPoll) }

/-- The stint consists of attempts that are finished, each with what it came to, and a part of another
one. None of them came to an unknown provider. -/
structure Made (defaults : Polling) (x : Stint) (done : List (List Event × Option Failure))
    (now : List Event) : Prop where
  events : x.events = done.flatMap (·.1) ++ now
  courses : ∀ d ∈ done, Course x.account (x.criteria defaults) d.1 d.2
  known : ∀ d ∈ done, ∀ tag, d.2 ≠ some (.unknownProvider tag)

/-- How a stint ends: with the last attempt there is to be, with one that meets an unknown provider,
before its time because it is no longer wanted, or in the middle of an attempt. -/
inductive Over (defaults : Polling) (x : Stint) : Prop
  | spent (done : List (List Event × Option Failure)) (made : x.Made defaults done [])
    (all : done.length = x.most defaults)
  | skipped (done : List (List Event × Option Failure)) (last : List Event) (tag : String)
    (made : x.Made defaults done last)
    (unknown : Course x.account (x.criteria defaults) last (some (.unknownProvider tag)))
    (few : done.length < x.most defaults)
  | unwanted (done : List (List Event × Option Failure)) (made : x.Made defaults done [])
    (few : done.length ≤ x.most defaults) (why : x.disturbed = true)
  | cut (done : List (List Event × Option Failure)) (now : List Event) (last : Event)
    (made : x.Made defaults done (now ++ [last]))
    (unfinished : Unfinished x.account (x.criteria defaults) now)
    (cuts : last = .panicked ∨ last = .abandoned) (few : done.length < x.most defaults)

/-- So many attempts are finished, and the next one may have begun. -/
def Running (defaults : Polling) (x : Stint) (attempts : Nat) : Prop :=
  attempts < x.most defaults ∧ ∃ done now, x.Made defaults done now ∧ done.length = attempts ∧
    (now = [] ∨ Unfinished x.account (x.criteria defaults) now)

variable {defaults : Polling} {x : Stint}

@[simp] theorem calls_extend (events : List Event) (disturbed : Bool) :
    (x.extend events disturbed).calls = x.calls ++ events.filterMap Event.call? := by
  simp [calls, extend]

theorem Made.congr {y : Stint} {done : List (List Event × Option Failure)} {now : List Event}
    (made : x.Made defaults done now) (account : y.account = x.account)
    (events : y.events = x.events) : y.Made defaults done now := by
  refine ⟨events.trans made.events, ?_, made.known⟩
  simpa only [criteria, account] using made.courses

theorem Made.extend {done : List (List Event × Option Failure)} {now events : List Event}
    (made : x.Made defaults done now) (disturbed : Bool) :
    (x.extend events disturbed).Made defaults done (now ++ events) :=
  ⟨by simp [Stint.extend, made.events], made.courses, made.known⟩

theorem Made.closes {done : List (List Event × Option Failure)} {last : List Event}
    {failure : Option Failure} (made : x.Made defaults done last)
    (course : Course x.account (x.criteria defaults) last failure)
    (known : ∀ tag, failure ≠ some (.unknownProvider tag)) :
    x.Made defaults (done ++ [(last, failure)]) [] := by
  refine ⟨by simp [made.events], ?_, ?_⟩
  · intro d among
    obtain old | new := List.mem_append.1 among
    · exact made.courses d old
    · rw [List.mem_singleton.1 new]
      exact course
  · intro d among
    obtain old | new := List.mem_append.1 among
    · exact made.known d old
    · rw [List.mem_singleton.1 new]
      exact known

/-- What is finished stays finished, disturbed or not. -/
theorem Over.stays (finished : x.Over defaults) (disturbed : Bool) :
    (x.extend [] disturbed).Over defaults := by
  have same {done : List (List Event × Option Failure)} {now : List Event}
      (made : x.Made defaults done now) : (x.extend [] disturbed).Made defaults done now :=
    made.congr rfl (by simp [extend])
  cases finished with
  | spent done made all => exact .spent done (same made) all
  | skipped done last tag made unknown few => exact .skipped done last tag (same made) unknown few
  | unwanted done made few why => exact .unwanted done (same made) few (by simp [extend, why])
  | cut done now last made unfinished cuts few =>
    exact .cut done now last (same made) unfinished cuts few

end Stint

/-- The cycle that a worker in a phase is in. -/
def Phase.cycle? : Phase φ → Option Cycle
  | .connecting c _ => some c
  | .fetching c _ => some c
  | .marking c _ _ => some c
  | .disconnecting c _ _ => some c
  | .pausing c _ => some c
  | _ => none

theorem Worker.cycle?_eq (w : Worker φ) : w.cycle? = w.phase.cycle? := rfl

namespace Worker

variable {m : Mailboxes ω φ} {s : Shared ω} {w : Worker φ} {made : List Call} {put : List Message}
  {after : Phase φ}

theorem Leg.tries {a : Account} (leg : Leg m s w made put after) (begins : w.begins? s = some a) :
    Tries m s w ⟨a, s.cycle, 0⟩ made after := by
  have idle : w.phase = .idle := by
    unfold begins? at begins
    split at begins
    · assumption
    · cases begins
  cases leg with
  | begins b begins' tries =>
    obtain rfl := Option.some.inj (begins.symm.trans begins')
    exact tries
  | exits phase none => simp [none] at begins
  | skips phase none => simp [none] at begins
  | dies message heard => simp [hears?, idle] at heard
  | _ => simp_all

/-- Outside a cycle nothing is shown, unless one begins. -/
theorem Leg.quiet (leg : Leg m s w made put after) (unbegun : w.begins? s = none)
    (outside : w.cycle? = none) : made = [] ∧ w.hears? s = none ∧ after.cycle? = none := by
  have unheard : w.hears? s = none := by
    unfold cycle? at outside
    unfold hears?
    split <;> simp_all
  cases leg with
  | wakes phase => exact ⟨rfl, unheard, rfl⟩
  | exits phase _ => exact ⟨rfl, unheard, rfl⟩
  | skips phase _ => exact ⟨rfl, unheard, rfl⟩
  | begins a begins tries => simp [unbegun] at begins
  | dies message heard => simp [unheard] at heard
  | _ => simp_all [cycle?]

end Worker

namespace Stint

/-- What the attempt that is being made has shown in a phase. -/
inductive Going (a : Account) (criteria : Criteria) : Phase φ → List Event → Prop
  | connecting (c : Cycle) (f : Flight φ Unit) :
    Going a criteria (.connecting c f) (connectingEvents a)
  | fetching (c : Cycle) (f : Flight φ (List Message)) :
    Going a criteria (.fetching c f) (fetchingEvents a criteria)
  | marking (c : Cycle) (f : Flight φ Unit) (e : Enqueued) (ids : List String) :
    Going a criteria (.marking c f e) (markingEvents a criteria ids)
  | disconnecting (c : Cycle) (f : Flight φ Unit) (result : Attempt) (before : List Event)
    (closes : ∀ back, Course a criteria (before ++ [.called (.disconnect a), .returned back])
      result.failure?) :
    Going a criteria (.disconnecting c f result) (before ++ [.called (.disconnect a)])
  | pausing (c : Cycle) (due : Nat) : Going a criteria (.pausing c due) []

theorem Going.unfinished {a : Account} {criteria : Criteria} {phase : Phase φ} {now : List Event}
    (going : Going a criteria phase now) : now = [] ∨ Unfinished a criteria now := by
  cases going with
  | connecting c f =>
    exact .inr ⟨by simp [connectingEvents], _, _, by simp, .unconnected (.fetch "") none⟩
  | fetching c f =>
    exact .inr ⟨by simp [fetchingEvents], _, _, by simp, .fetched none⟩
  | marking c f e ids =>
    exact .inr ⟨by simp [markingEvents], _, _, by simp, .marked ids none none⟩
  | disconnecting c f result before closes =>
    exact .inr ⟨by simp, [.returned none], _, by simp, by simpa using closes none⟩
  | pausing c due => exact .inl rfl

theorem Going.calling {a : Account} {criteria : Criteria} {phase : Phase φ} {now : List Event}
    (going : Going a criteria phase now) (calling : ∀ c due, phase ≠ .pausing c due) :
    Unfinished a criteria now := by
  obtain none | unfinished := going.unfinished
  · cases going with
    | pausing c due => exact absurd rfl (calling c due)
    | _ => simp [connectingEvents, fetchingEvents, markingEvents] at none
  · exact unfinished

theorem Going.disconnects {a : Account} {criteria : Criteria} {c : Cycle} {f : Flight φ Unit}
    {result : Attempt} {now : List Event} {failure : Option Failure}
    (closes : ∀ back, Course a criteria
      (now ++ [.returned failure, .called (.disconnect a), .returned back]) result.failure?) :
    Going a criteria (.disconnecting c f result)
      (now ++ [.returned failure, .called (.disconnect a)]) := by
  have h := Going.disconnecting (a := a) c f result (now ++ [.returned failure])
    (by simpa using closes)
  simpa using h

/-- A worker in a cycle is making the stint. -/
structure Follows (defaults : Polling) (generation : Nat) (x : Stint) (phase : Phase φ)
    (c : Cycle) : Prop where
  account : c.account = x.account
  left : c.attempts < x.most defaults
  calm : x.disturbed = false → c.generation = generation
  late : ∀ f, phase = .disconnecting c f .superseded → x.disturbed = true
  made : ∃ done now, x.Made defaults done now ∧ done.length = c.attempts ∧
    Going x.account (x.criteria defaults) phase now

theorem Follows.disturb {defaults : Polling} {generation : Nat} {x : Stint} {phase : Phase φ}
    {c : Cycle} (follows : x.Follows defaults generation phase c) (disturbed : Bool) :
    (x.extend [] disturbed).Follows defaults (generation + disturbed.toNat) phase c := by
  obtain ⟨done, now, made, counted, shows⟩ := follows.made
  refine ⟨follows.account, follows.left, ?_, ?_, done, now, made.congr rfl (by simp [extend]),
    counted, shows⟩
  · intro calm
    obtain ⟨quiet, rfl⟩ := Bool.or_eq_false_iff.1 calm
    exact follows.calm quiet
  · intro f dropped
    simp [extend, follows.late f dropped]

/-- In a phase inside a cycle the stint goes on, and in any other it is finished. -/
def After (defaults : Polling) (generation : Nat) (x : Stint) (phase : Phase φ) : Prop :=
  (∃ c, phase.cycle? = some c ∧ x.Follows defaults generation phase c) ∨
    phase.cycle? = none ∧ x.Over defaults

variable {defaults : Polling} {generation : Nat} {x : Stint} {c : Cycle} {phase after : Phase φ}

theorem Made.pauses {done : List (List Event × Option Failure)} (made : x.Made defaults done [])
    (account : c.account = x.account) (counted : done.length = c.attempts)
    (left : c.attempts < x.most defaults) (calm : x.disturbed = false → c.generation = generation)
    (due : Nat) : x.After defaults generation (.pausing c due : Phase φ) :=
  .inl ⟨c, rfl, account, left, calm, fun f h => (by cases h), done, [], made, counted,
    .pausing c due⟩

/-- The end of an attempt is the end of the stint, unless there is to be another attempt. -/
theorem Made.ends {done : List (List Event × Option Failure)} {last : List Event}
    {result : Attempt} (made : x.Made defaults done last)
    (course : Course x.account (x.criteria defaults) last result.failure?)
    (account : c.account = x.account) (counted : done.length = c.attempts)
    (left : c.attempts < x.most defaults) (calm : x.disturbed = false → c.generation = generation)
    (late : result = .superseded → x.disturbed = true)
    (ends : Worker.Ends (x.most defaults) c result after) : x.After defaults generation after := by
  have known (counts : result.Counts) (tag : String) :
      result.failure? ≠ some (.unknownProvider tag) := by
    intro unknown
    cases result with
    | done => cases unknown
    | superseded => cases unknown
    | failed why =>
      obtain rfl := Option.some.inj unknown
      exact counts
  cases ends with
  | pauses counts more due =>
    have joined := made.closes course (known counts)
    exact joined.pauses (c := { c with attempts := c.attempts + 1 }) account (by simp [counted])
      more calm due
  | spends counts none =>
    refine .inr ⟨rfl, .spent _ (made.closes course (known counts)) ?_⟩
    rw [List.length_append, List.length_singleton]
    omega
  | drops dropped =>
    subst dropped
    refine .inr ⟨rfl, .unwanted _ (made.closes course (fun tag h => by cases h)) ?_ (late rfl)⟩
    rw [List.length_append, List.length_singleton]
    omega
  | skips tag unknown =>
    subst unknown
    exact .inr ⟨rfl, .skipped done last tag made course (by omega)⟩

variable {m : Mailboxes ω φ} {s : Shared ω} {w : Worker φ} {made : List Call}

theorem most_eq (account : c.account = x.account) :
    (c.polling s).maxPollCount = x.most s.defaults := by
  rw [Cycle.polling, Account.effectivePolling_eq, most, account]

theorem criteria_eq (account : c.account = x.account) : c.criteria s = x.criteria s.defaults := by
  rw [Cycle.criteria, Cycle.polling, Account.effectivePolling_eq, criteria, account]

theorem Made.nothing {done : List (List Event × Option Failure)} {now : List Event}
    (h : x.Made defaults done now) : (x.extend [] false).Made defaults done now :=
  h.congr rfl (by simp [Stint.extend])

/-- Where an attempt is due, it begins or the stint is finished. -/
theorem Made.tries {done : List (List Event × Option Failure)} (h : x.Made s.defaults done [])
    (account : c.account = x.account) (counted : done.length = c.attempts)
    (within : c.attempts ≤ x.most s.defaults)
    (calm : x.disturbed = false → c.generation = s.cycle)
    (going : x.disturbed = false → w.stop = false)
    (tries : Worker.Tries m s w c made after) :
    (x.extend (made.map (Event.ofCall m s.world)) false).After s.defaults s.cycle after := by
  have calm' : (x.extend (made.map (Event.ofCall m s.world)) false).disturbed = false →
      c.generation = s.cycle := by simpa [Stint.extend] using calm
  have most := most_eq (s := s) account
  cases tries with
  | ceases why =>
    refine .inr ⟨rfl, ?_⟩
    rw [most] at why
    obtain spent | ended := why
    · exact .spent done h.nothing (counted.trans (Nat.le_antisymm within spent))
    · refine .unwanted done h.nothing (counted ▸ within) ?_
      cases disturbed : x.disturbed with
      | true => simp [Stint.extend, disturbed]
      | false =>
        rw [going disturbed, calm disturbed] at ended
        simp at ended
  | refused left why answer ends =>
    rw [most] at left ends
    have asked : ([.create c.account] : List Call).map (Event.ofCall m s.world) =
        [.created x.account (some why)] := by
      simp [Event.ofCall, account ▸ answer, account]
    rw [asked] at calm' ⊢
    refine (h.extend false).ends ?_ account counted left calm' (fun late => by cases late) ends
    exact .refused why
  | connects left fetcher answer flight =>
    rw [most] at left
    have asked : ([.create c.account, .connect c.account] : List Call).map
        (Event.ofCall m s.world) = connectingEvents x.account := by
      simp [Event.ofCall, account ▸ answer, account, connectingEvents]
    rw [asked] at calm' ⊢
    exact .inl ⟨c, rfl, account, left, calm', fun f late => (by cases late), done, _,
      h.extend false, counted, .connecting c flight⟩

/-- What a step shows: how its call comes back, and the calls that it makes. -/
def shown (m : Mailboxes ω φ) (s : Shared ω) (w : Worker φ) (made : List Call) : List Event :=
  (w.hears? s).toList ++ made.map (Event.ofCall m s.world)

theorem shown_calls (m : Mailboxes ω φ) (s : Shared ω) (w : Worker φ) (made : List Call) :
    (shown m s w made).filterMap Event.call? = made := by
  have heard : (w.hears? s).toList.filterMap Event.call? = [] := by
    unfold Worker.hears?
    split <;> (try split) <;> simp
  have back : Event.call? ∘ Event.ofCall m s.world = some :=
    funext (Event.call?_ofCall m s.world)
  rw [shown, List.filterMap_append, heard, List.nil_append, List.filterMap_map, back,
    List.filterMap_some]

theorem Follows.moves {events : List Event} (follows : x.Follows defaults generation phase c)
    (going : ∀ now, Going x.account (x.criteria defaults) phase now →
      Going x.account (x.criteria defaults) after (now ++ events))
    (inside : after.cycle? = some c)
    (late : ∀ f, after = .disconnecting c f .superseded → x.disturbed = true) :
    (x.extend events false).After defaults generation after := by
  obtain ⟨done, now, made, counted, shows⟩ := follows.made
  refine .inl ⟨c, inside, follows.account, follows.left, ?_, ?_, done, now ++ events,
    made.extend false, counted, going now shows⟩
  · simpa [extend] using follows.calm
  · simpa [extend] using late

theorem Follows.cut (follows : x.Follows defaults generation phase c)
    (calling : ∀ c due, phase ≠ .pausing c due) {last : Event}
    (cuts : last = .panicked ∨ last = .abandoned) (disturbed : Bool) :
    (x.extend [last] disturbed).Over defaults := by
  obtain ⟨done, now, made, counted, shows⟩ := follows.made
  exact .cut done now last (made.extend disturbed) (shows.calling calling) cuts
    (counted ▸ follows.left)

theorem shown_of_hears {back : Event} (heard : w.hears? s = some back) (made : List Call) :
    shown m s w made = back :: made.map (Event.ofCall m s.world) := by
  rw [shown, heard]
  rfl

/-- A call has come back, and the fetcher is closed. -/
theorem Follows.disconnects {result : Attempt} {failure : Option Failure}
    (follows : x.Follows s.defaults s.cycle w.phase c)
    (heard : w.hears? s = some (.returned failure))
    (closes : ∀ now, Going x.account (x.criteria s.defaults) w.phase now → ∀ back,
      Course x.account (x.criteria s.defaults)
        (now ++ [.returned failure, .called (.disconnect x.account), .returned back])
        result.failure?)
    (late : result = .superseded → x.disturbed = true) (flight : Flight φ Unit) :
    (x.extend (shown m s w [.disconnect c.account]) false).After s.defaults s.cycle
      (.disconnecting c flight result) := by
  rw [shown_of_hears heard, follows.account]
  refine follows.moves (fun now shows => .disconnects (closes now shows)) rfl ?_
  intro f dropped
  injection dropped with _ _ dropped
  exact late dropped

theorem Follows.unconnected {f : Flight φ Unit} {why : Failure}
    (follows : x.Follows s.defaults s.cycle w.phase c) (phase : w.phase = .connecting c f)
    (due : f.due ≤ s.now) (back : f.fate = .returns (.error why)) (flight : Flight φ Unit) :
    (x.extend (shown m s w [.disconnect c.account]) false).After s.defaults s.cycle
      (.disconnecting c flight (.failed why)) := by
  have heard : w.hears? s = some (.returned (some why)) := by
    simp [Worker.hears?, phase, due, back, Event.ofFate]
  refine follows.disconnects heard (fun now shows => ?_) (by simp) flight
  rw [phase] at shows
  cases shows
  exact .unconnected why

theorem Follows.connected {f : Flight φ Unit}
    (follows : x.Follows s.defaults s.cycle w.phase c) (phase : w.phase = .connecting c f)
    (due : f.due ≤ s.now) (back : f.fate = .returns (.ok ()))
    (flight : Flight φ (List Message)) :
    (x.extend (shown m s w [.fetch c.account (c.criteria s)]) false).After s.defaults s.cycle
      (.fetching c flight) := by
  have heard : w.hears? s = some (.returned none) := by
    simp [Worker.hears?, phase, due, back, Event.ofFate]
  rw [shown_of_hears heard, follows.account, criteria_eq follows.account]
  refine follows.moves (fun now shows => ?_) rfl (by simp)
  rw [phase] at shows
  cases shows
  exact .fetching c flight

theorem Follows.unfetched {f : Flight φ (List Message)} {why : Failure}
    (follows : x.Follows s.defaults s.cycle w.phase c) (phase : w.phase = .fetching c f)
    (due : f.due ≤ s.now) (back : f.fate = .returns (.error why)) (flight : Flight φ Unit) :
    (x.extend (shown m s w [.disconnect c.account]) false).After s.defaults s.cycle
      (.disconnecting c flight (.failed why)) := by
  have heard : w.hears? s = some (.returned (some why)) := by
    simp [Worker.hears?, phase, due, back, Event.ofFate]
  refine follows.disconnects heard (fun now shows => ?_) (by simp) flight
  rw [phase] at shows
  cases shows
  exact .unfetched why

theorem Follows.fetched {f : Flight φ (List Message)} {batch : List Message} {result : Attempt}
    (follows : x.Follows s.defaults s.cycle w.phase c) (phase : w.phase = .fetching c f)
    (due : f.due ≤ s.now) (back : f.fate = .returns (.ok batch))
    (unfailed : result.failure? = none) (late : result = .superseded → x.disturbed = true)
    (flight : Flight φ Unit) :
    (x.extend (shown m s w [.disconnect c.account]) false).After s.defaults s.cycle
      (.disconnecting c flight result) := by
  have heard : w.hears? s = some (.returned none) := by
    simp [Worker.hears?, phase, due, back, Event.ofFate]
  refine follows.disconnects heard (fun now shows => ?_) late flight
  rw [phase] at shows
  cases shows
  rw [unfailed]
  exact .fetched

theorem Follows.marks {f : Flight φ (List Message)} {batch : List Message}
    (follows : x.Follows s.defaults s.cycle w.phase c) (phase : w.phase = .fetching c f)
    (due : f.due ≤ s.now) (back : f.fate = .returns (.ok batch)) (ids : List String)
    (flight : Flight φ Unit) (e : Enqueued) :
    (x.extend (shown m s w [.markRead c.account ids]) false).After s.defaults s.cycle
      (.marking c flight e) := by
  have heard : w.hears? s = some (.returned none) := by
    simp [Worker.hears?, phase, due, back, Event.ofFate]
  rw [shown_of_hears heard, follows.account]
  refine follows.moves (fun now shows => ?_) rfl (by simp)
  rw [phase] at shows
  cases shows
  exact .marking c flight e ids

theorem Follows.marked {f : Flight φ Unit} {e : Enqueued} {result : Outcome Unit}
    (follows : x.Follows s.defaults s.cycle w.phase c) (phase : w.phase = .marking c f e)
    (due : f.due ≤ s.now) (back : f.fate = .returns result) (flight : Flight φ Unit) :
    (x.extend (shown m s w [.disconnect c.account]) false).After s.defaults s.cycle
      (.disconnecting c flight .done) := by
  obtain ⟨answer, heard⟩ : ∃ answer, w.hears? s = some (.returned answer) := by
    cases result <;> simp [Worker.hears?, phase, due, back, Event.ofFate]
  refine follows.disconnects heard (fun now shows => ?_) (by simp) flight
  rw [phase] at shows
  cases shows
  exact .marked _ answer

theorem Follows.closed {f : Flight φ Unit} {result : Attempt} {answer : Outcome Unit}
    (follows : x.Follows s.defaults s.cycle w.phase c)
    (phase : w.phase = .disconnecting c f result) (due : f.due ≤ s.now)
    (back : f.fate = .returns answer)
    (ends : Worker.Ends (c.polling s).maxPollCount c result after) :
    (x.extend (shown m s w []) false).After s.defaults s.cycle after := by
  obtain ⟨failure, heard⟩ : ∃ failure, w.hears? s = some (.returned failure) := by
    cases answer <;> simp [Worker.hears?, phase, due, back, Event.ofFate]
  rw [shown_of_hears heard]
  obtain ⟨done, now, made, counted, shows⟩ := follows.made
  rw [phase] at shows
  cases shows with
  | disconnecting _ _ _ before closes =>
    have course : Course x.account (x.criteria s.defaults)
        (before ++ [.called (.disconnect x.account)] ++ [.returned failure]) result.failure? := by
      simpa using closes failure
    rw [most_eq (s := s) follows.account] at ends
    refine (made.extend false).ends course follows.account counted follows.left ?_ ?_ ends
    · simpa [extend] using follows.calm
    · rintro rfl
      simpa [extend] using follows.late f phase

theorem Follows.abandoned {due : Nat} (follows : x.Follows s.defaults s.cycle w.phase c)
    (phase : w.phase = .pausing c due) (going : x.disturbed = false → w.stop = false)
    (why : w.stop = true ∨ s.cycle ≠ c.generation) :
    (x.extend (shown m s w []) false).After s.defaults s.cycle (.idle : Phase φ) := by
  have silent : shown m s w [] = [] := by simp [shown, Worker.hears?, phase]
  rw [silent]
  obtain ⟨done, now, made, counted, shows⟩ := follows.made
  rw [phase] at shows
  cases shows
  refine .inr ⟨rfl, .unwanted done made.nothing (counted ▸ Nat.le_of_lt follows.left) ?_⟩
  cases disturbed : x.disturbed with
  | true => simp [extend, disturbed]
  | false =>
    rw [going disturbed, follows.calm disturbed] at why
    simp at why

theorem Follows.resumes {due : Nat} (follows : x.Follows s.defaults s.cycle w.phase c)
    (phase : w.phase = .pausing c due) (going : x.disturbed = false → w.stop = false)
    (tries : Worker.Tries m s w c made after) :
    (x.extend (shown m s w made) false).After s.defaults s.cycle after := by
  have unheard : shown m s w made = made.map (Event.ofCall m s.world) := by
    simp [shown, Worker.hears?, phase]
  rw [unheard]
  obtain ⟨done, now, attempts, counted, shows⟩ := follows.made
  rw [phase] at shows
  cases shows
  exact attempts.tries follows.account counted (Nat.le_of_lt follows.left) follows.calm going tries

/-- Every leg inside a cycle takes the stint further or brings it to its end. -/
theorem Follows.leg {put : List Message} (follows : x.Follows s.defaults s.cycle w.phase c)
    (inside : w.cycle? = some c) (going : x.disturbed = false → w.stop = false)
    (leg : Worker.Leg m s w made put after) :
    (x.extend (shown m s w made) false).After s.defaults s.cycle after := by
  rw [Worker.cycle?_eq] at inside
  cases leg with
  | wakes phase => simp [Phase.cycle?, phase] at inside
  | exits phase none => simp [Phase.cycle?, phase] at inside
  | skips phase none => simp [Phase.cycle?, phase] at inside
  | begins a begins tries =>
    unfold Worker.begins? at begins
    split at begins
    · rename_i phase
      simp [Phase.cycle?, phase] at inside
    · cases begins
  | disconnects d f phase due why back flight =>
    obtain rfl : d = c := by simpa [Phase.cycle?, phase] using inside
    exact follows.unconnected phase due back flight
  | connected d f phase due back flight =>
    obtain rfl : d = c := by simpa [Phase.cycle?, phase] using inside
    exact follows.connected phase due back flight
  | unfetched d f phase due why back flight =>
    obtain rfl : d = c := by simpa [Phase.cycle?, phase] using inside
    exact follows.unfetched phase due back flight
  | late d f phase due batch back stale flight =>
    obtain rfl : d = c := by simpa [Phase.cycle?, phase] using inside
    -- An undisturbed stint is still the newest cycle, so its batch cannot be late.
    have disturbed : x.disturbed = true := by
      by_contra calm
      exact stale (follows.calm (by simpa using calm)).symm
    exact follows.fetched phase due back (by split <;> rfl) (fun _ => disturbed) flight
  | takes d f phase due batch back current unmarked flight =>
    obtain rfl : d = c := by simpa [Phase.cycle?, phase] using inside
    exact follows.fetched phase due back rfl (by simp) flight
  | marks d f phase due batch back current asked some flight e =>
    obtain rfl : d = c := by simpa [Phase.cycle?, phase] using inside
    exact follows.marks phase due back _ flight e
  | marked d f e phase due result back flight =>
    obtain rfl : d = c := by simpa [Phase.cycle?, phase] using inside
    exact follows.marked phase due back flight
  | ends d f result phase due answer back ends =>
    obtain rfl : d = c := by simpa [Phase.cycle?, phase] using inside
    exact follows.closed phase due back ends
  | abandons d due phase why =>
    obtain rfl : d = c := by simpa [Phase.cycle?, phase] using inside
    exact follows.abandoned phase going why
  | again d due phase tries =>
    obtain rfl : d = c := by simpa [Phase.cycle?, phase] using inside
    exact follows.resumes phase going tries
  | dies message heard =>
    rw [shown_of_hears heard]
    refine .inr ⟨rfl, follows.cut (fun c due phase => ?_) (.inl rfl) false⟩
    simp [Worker.hears?, phase] at heard

end Stint

end MailRound.Poller
