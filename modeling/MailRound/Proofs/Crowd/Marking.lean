import MailRound.Proofs.Crowd.Alike
import MailRound.Proofs.Crowd.Crew
import MailRound.Proofs.Crowd.Epoch

namespace MailRound

def Call.marked? : Call → Option (Account × List String)
  | .markRead a ids => some (a, ids)
  | _ => none

def markedIn (calls : List Call) : List (Account × List String) := calls.filterMap Call.marked?

/-- The marks that an attempt has to make for what it has put. -/
def Account.dues (a : Account) (put : List Message) : List (Account × List String) :=
  if a.criteria.markAsRead = true ∧ put ≠ [] then [(a, put.map (·.id))] else []

namespace Poller

variable {ω φ : Type} {m : Mailboxes ω φ}

def Phase.awaits? : Phase φ → Option Account
  | .connecting c _ => some c.account
  | .fetching c _ => some c.account
  | _ => none

namespace Worker

/-- What a step is to the attempt that it is part of. -/
inductive Part (before after : Phase φ) (made : List Call) (put : List Message) : Prop
  | opens (a : Account) (created : createdIn made = [a]) (unmarked : markedIn made = [])
    (empty : put = []) (next : ∀ b, after.awaits? = some b → b = a)
  | fills (a : Account) (awaits : before.awaits? = some a) (created : createdIn made = [])
    (marked : markedIn made = a.dues put) (next : after.awaits? = none)
  | passes (created : createdIn made = []) (unmarked : markedIn made = []) (empty : put = [])
    (next : ∀ b, after.awaits? = some b → before.awaits? = some b)

theorem Ends.awaits {most : Nat} {c : Cycle} {result : Attempt} {phase : Phase φ}
    (ends : Ends most c result phase) : phase.awaits? = none := by
  cases ends <;> rfl

theorem Tries.part {s : Shared ω} {w : Worker φ} {c : Cycle} {made : List Call}
    {before after : Phase φ} (tries : Tries m s w c made after) : Part before after made [] := by
  cases tries with
  | ceases why => exact .passes rfl rfl rfl fun _ h => nomatch h
  | refused left why answer ends =>
    exact .opens c.account rfl rfl rfl fun b h => by simp [ends.awaits] at h
  | connects left fetcher answer flight =>
    exact .opens c.account rfl rfl rfl fun b h => (Option.some.inj h).symm

/-- A batch that comes too late is neither put nor marked. -/
theorem step_of_late_batch {s : Shared ω} {w : Worker φ} {r : Step ω φ} {c : Cycle}
    {batch : List Message} (goes : w.step m s = some r)
    (fetched : w.batch? s = some (c, batch)) (late : s.cycle ≠ c.generation) :
    s.Effect [.disconnect c.account] [] r.1 := by
  obtain ⟨made, put, effect, turn⟩ := step_turn goes
  cases turn with
  | lands c' batch' fetched' goes taken =>
    cases fetched.symm.trans fetched'
    obtain ⟨current, -⟩ | ⟨-, rfl, rfl⟩ := taken
    · exact absurd current late
    · exact effect
  | wakes fresh self flag quiet empty => simp [batch?, fresh] at fetched
  | exits idle why self flag quiet empty => simp [batch?, idle] at fetched
  | skips idle go signal unselected self flag quiet empty => simp [batch?, idle] at fetched
  | begins account selected goes calls empty =>
    simp [batch?, (begins?_eq_some.1 selected).1] at fetched
  | goesOn c inside other goes calls unmarked empty => cases fetched.symm.trans other
  | dies c inside other message self flag quiet empty => cases fetched.symm.trans other

theorem Leg.part {s : Shared ω} {w : Worker φ} {made : List Call} {put : List Message}
    {after : Phase φ} (leg : Leg m s w made put after) : Part w.phase after made put := by
  cases leg with
  | begins a begins tries => exact tries.part
  | again c due phase tries => exact tries.part
  | connected c f phase due back flight =>
    exact .passes rfl rfl rfl fun b h => by rw [phase]; exact h
  | takes c f phase due batch back current unmarked flight =>
    refine .fills c.account (by rw [phase]; rfl) rfl ?_ rfl
    rw [Account.dues, if_neg]
    · rfl
    · rintro ⟨asked, some⟩
      exact some (unmarked asked)
  | marks c f phase due batch back current asked some flight e =>
    refine .fills c.account (by rw [phase]; rfl) rfl ?_ rfl
    rw [Account.dues, if_pos ⟨asked, some⟩]
    rfl
  | ends c f result phase due answer back ends =>
    exact .passes rfl rfl rfl fun b h => by simp [ends.awaits] at h
  | _ => exact .passes rfl rfl rfl fun _ h => nomatch h

end Worker

namespace Crowd

namespace Entry

variable (t : Entry ω φ)

def worker? : Option Nat :=
  match t.act with
  | .work serial => some serial
  | _ => none

def marks : List (Account × List String) := markedIn t.calls

def marked : List String := t.marks.flatMap (·.2)

end Entry

/-- What an attempt has put and marked so far. -/
structure Trial where
  account : Account
  puts : List Message
  marks : List (Account × List String)

def Trial.sees (t : Entry ω φ) (x : Trial) : Trial :=
  { x with puts := x.puts ++ t.puts, marks := x.marks ++ t.marks }

namespace Journal

def of (serial : Nat) (j : Journal ω φ) : Journal ω φ := j.filter (·.worker? = some serial)

def marks (j : Journal ω φ) : List (Account × List String) := j.reverse.flatMap (·.marks)

/-- The ids that were marked, the oldest first. -/
def marked (j : Journal ω φ) : List String := j.reverse.flatMap (·.marked)

/-- The attempts of a worker, the newest first. Each begins when a fetcher is asked for. -/
def trials (serial : Nat) : Journal ω φ → List Trial
  | [] => []
  | t :: j =>
    if t.worker? = some serial then
      match createdIn t.calls with
      | [] => (trials serial j).modifyHead (Trial.sees t)
      | a :: _ => ⟨a, t.puts, t.marks⟩ :: trials serial j
    else trials serial j

variable {t : Entry ω φ} {j : Journal ω φ} {serial : Nat}

theorem trials_of_other (other : t.worker? ≠ some serial) :
    trials serial (t :: j) = trials serial j := by
  rw [trials, if_neg other]

theorem trials_of_created {a : Account} (mine : t.worker? = some serial)
    (created : createdIn t.calls = [a]) :
    trials serial (t :: j) = ⟨a, t.puts, t.marks⟩ :: trials serial j := by
  rw [trials, if_pos mine, created]

theorem trials_of_uncreated (mine : t.worker? = some serial) (created : createdIn t.calls = []) :
    trials serial (t :: j) = (trials serial j).modifyHead (Trial.sees t) := by
  rw [trials, if_pos mine, created]

end Journal

/-- Entries of a worker and the attempts that they make up. -/
structure Tallied (j : Journal ω φ) (xs : List Trial) : Prop where
  due : ∀ x ∈ xs, x.marks = x.account.dues x.puts
  puts : j.puts = xs.reverse.flatMap (·.puts)
  marks : j.marks = xs.reverse.flatMap (·.marks)

section Tallied

variable {t : Entry ω φ} {j : Journal ω φ} {xs : List Trial} {a : Account}

theorem Tallied.newest (h : Tallied j xs) (due : t.marks = a.dues t.puts) :
    Tallied (t :: j) (⟨a, t.puts, t.marks⟩ :: xs) := by
  refine ⟨?_, ?_, ?_⟩
  · intro x member
    obtain rfl | old := List.mem_cons.1 member
    · exact due
    · exact h.due x old
  · simp [h.puts]
  · have marks : Journal.marks (t :: j) = j.marks ++ t.marks := by simp [Journal.marks]
    simp [marks, h.marks]

theorem Tallied.quiet (h : Tallied j xs) (puts : t.puts = []) (marks : t.marks = []) :
    Tallied (t :: j) xs := by
  refine ⟨h.due, ?_, ?_⟩
  · simp [puts, h.puts]
  · simpa [Journal.marks, marks] using h.marks

theorem Tallied.of_empty (h : Tallied j (⟨a, [], []⟩ :: xs)) : Tallied j xs :=
  ⟨fun x member => h.due x (List.mem_cons_of_mem _ member), by simpa using h.puts,
    by simpa using h.marks⟩

end Tallied

/-- What the journal says about attempts. -/
structure Attempted (j : Journal ω φ) (s : Crowd ω φ) : Prop where
  tallied : ∀ serial, Tallied (j.of serial) (j.trials serial)
  /-- The newest attempt of a worker that waits for a batch is empty so far. -/
  awaiting : ∀ b ∈ s.poller.badges, ∀ a, b.2.awaits? = some a →
    ∃ rest, j.trials b.1 = ⟨a, [], []⟩ :: rest

theorem Attempted.other {j : Journal ω φ} {t : Entry ω φ} (h : Attempted j t.before)
    (other : t.worker? = none)
    (badges : ∀ b ∈ t.after.poller.badges, b ∈ t.before.poller.badges ∨ b.2 = .fresh) :
    Attempted (t :: j) t.after := by
  have trials (serial : Nat) : Journal.trials serial (t :: j) = j.trials serial :=
    Journal.trials_of_other (by simp [other])
  have same (serial : Nat) : Journal.of serial (t :: j) = j.of serial := by
    simp [Journal.of, other]
  refine ⟨fun serial => ?_, ?_⟩
  · rw [same, trials]
    exact h.tallied serial
  · intro b member a awaits
    obtain old | fresh := badges b member
    · obtain ⟨rest, newest⟩ := h.awaiting b old a awaits
      exact ⟨rest, (trials b.1).trans newest⟩
    · simp [fresh, Phase.awaits?] at awaits

/-- The attempt of the worker that makes a step goes on, and no other does. -/
theorem Attempted.works {j : Journal ω φ} {t : Entry ω φ} (h : Attempted j t.before)
    (numbered : Numbered t.before) {serial : Nat} {phase phase' : Phase φ}
    {before after : List (Nat × Phase φ)} (mine : t.worker? = some serial)
    (part : Worker.Part phase phase' t.calls t.puts)
    (was : t.before.poller.badges = before ++ (serial, phase) :: after)
    (is : t.after.poller.badges = before ++ (serial, phase') :: after) :
    Attempted (t :: j) t.after := by
  have tallied := h.tallied serial
  have mineOf : Journal.of serial (t :: j) = t :: j.of serial := by simp [Journal.of, mine]
  obtain ⟨now, next⟩ : Tallied (t :: j.of serial) (Journal.trials serial (t :: j)) ∧
      ∀ a, phase'.awaits? = some a →
        ∃ rest, Journal.trials serial (t :: j) = ⟨a, [], []⟩ :: rest := by
    cases part with
    | opens a created unmarked empty next =>
      rw [Journal.trials_of_created mine created]
      have marks : t.marks = [] := unmarked
      refine ⟨tallied.newest (by simp [marks, empty, Account.dues]), fun b awaits => ?_⟩
      rw [next b awaits, empty, marks]
      exact ⟨_, rfl⟩
    | fills a awaits created marked next =>
      obtain ⟨rest, newest⟩ := h.awaiting (serial, phase) (by simp [was]) a awaits
      rw [Journal.trials_of_uncreated mine created, newest]
      exact ⟨(newest ▸ tallied).of_empty.newest marked, fun b awaits => by simp [next] at awaits⟩
    | passes created unmarked empty next =>
      have marks : t.marks = [] := unmarked
      have same : Journal.trials serial (t :: j) = j.trials serial := by
        rw [Journal.trials_of_uncreated mine created]
        cases j.trials serial <;> simp [Trial.sees, marks, empty]
      rw [same]
      exact ⟨tallied.quiet empty marks, fun b awaits =>
        h.awaiting (serial, phase) (by simp [was]) b (next b awaits)⟩
  refine ⟨fun number => ?_, ?_⟩
  · by_cases this : number = serial
    · rw [this, mineOf]
      exact now
    · have other : t.worker? ≠ some number := by simp [mine, Ne.symm this]
      have same : Journal.of number (t :: j) = j.of number := by simp [Journal.of, other]
      rw [same, Journal.trials_of_other other]
      exact h.tallied number
  · intro b member a awaits
    have distinct := numbered.distinct
    rw [was, List.map_append, List.map_cons, List.nodup_middle] at distinct
    rw [is] at member
    obtain rfl | old := List.mem_cons.1 (List.perm_middle.mem_iff.1 member)
    · exact next a awaits
    -- The other workers keep what they had, since no two have the same number.
    · have other : b.1 ≠ serial := by
        rintro rfl
        rw [← List.map_append] at distinct
        exact (List.nodup_cons.1 distinct).1 (List.mem_map.2 ⟨b, old, rfl⟩)
      rw [Journal.trials_of_other (by simp [mine, Ne.symm other])]
      refine h.awaiting b ?_ a awaits
      rw [was]
      exact List.perm_middle.mem_iff.2 (List.mem_cons_of_mem _ old)

theorem Attempted.crew {j : Journal ω φ} {t : Entry ω φ} (h : Attempted j t.before)
    (numbered : Numbered t.before) (crew : t.Crew m) : Attempted (t :: j) t.after := by
  have silent (other : ∀ serial, t.act ≠ .work serial) : t.worker? = none := by
    unfold Entry.worker?
    split
    · rename_i serial act
      exact absurd act (other serial)
    · rfl
  cases crew with
  | works w r act goes shared member before after was is spawned =>
    obtain ⟨made, put, effect, leg⟩ := Worker.step_leg goes
    rw [← shared] at effect
    refine h.works numbered (by simp [Entry.worker?, act]) ?_ was is
    rw [Entry.calls_of_effect effect, Entry.puts_of_effect act effect]
    exact leg.part
  | leaves other badges spawned =>
    exact h.other (silent other) fun b member => .inl (badges.subset member)
  | adds other badges spawned =>
    refine h.other (silent other) fun b member => ?_
    obtain rfl | old := List.mem_cons.1 (badges.subset member)
    · exact .inr rfl
    · exact .inl old

theorem Run.attempted {roster : Roster} {defaults : Polling} {world : ω} {clock : Calendar.Instant}
    {j : Journal ω φ} {s : Crowd ω φ} (run : Run m (.new roster defaults world clock) j s) :
    Attempted j s := by
  induction run with
  | nil =>
    exact ⟨fun _ => ⟨fun _ member => absurd member List.not_mem_nil, rfl, rfl⟩,
      fun _ member => absurd member List.not_mem_nil⟩
  | cons past step ih => exact ih.crew past.numbered step.crew

/-- Nothing is marked that was passed over. -/
structure Entry.Careful (t : Entry ω φ) : Prop where
  /-- What is marked has just been put, in the same order. -/
  put : t.marked.Sublist (t.puts.map (·.id))
  new : ∀ id ∈ t.marked, id ∉ t.before.shared.delivered.ids
  named : ∀ id ∈ t.marked, Text.trim id ≠ ""
  /-- A batch that comes too late is neither put nor marked. -/
  late : ∀ w ∈ t.before.poller.present, t.act = .work w.serial → ∀ c batch,
    w.batch? t.before.shared = some (c, batch) → t.before.shared.cycle ≠ c.generation →
      t.puts = [] ∧ t.marks = []

theorem Entry.marked_sublist_puts {t : Entry ω φ} {before after : Phase φ}
    (part : Worker.Part before after t.calls t.puts) : t.marked.Sublist (t.puts.map (·.id)) := by
  have quiet (unmarked : markedIn t.calls = []) : t.marked = [] := by
    simp [marked, marks, unmarked]
  cases part with
  | opens a created unmarked empty next => exact quiet unmarked ▸ List.nil_sublist _
  | passes created unmarked empty next => exact quiet unmarked ▸ List.nil_sublist _
  | fills a awaits created dues next =>
    rw [marked, marks, dues, Account.dues]
    split
    · simp
    · exact List.nil_sublist _

theorem Entry.Careful.of_quiet {t : Entry ω φ} (puts : t.puts = []) (calls : t.calls = []) :
    t.Careful := by
  have marks : t.marks = [] := by rw [Entry.marks, calls]; rfl
  have marked : t.marked = [] := by rw [Entry.marked, marks]; rfl
  exact ⟨marked ▸ List.nil_sublist _, by simp [marked], by simp [marked],
    fun _ _ _ _ _ _ _ => ⟨puts, marks⟩⟩

theorem Entry.Careful.works {t : Entry ω φ} {j : Journal ω φ} (counted : Counted j t.before)
    (numbered : Numbered t.before) {w : Worker φ} {r : Worker.Step ω φ}
    (act : t.act = .work w.serial) (goes : w.step m t.before.shared = some r)
    (shared : t.after.shared = r.1) (member : w ∈ t.before.poller.present) : t.Careful := by
  obtain ⟨made, put, effect, leg⟩ := Worker.step_leg goes
  rw [← shared] at effect
  have calls := Entry.calls_of_effect effect
  have puts := Entry.puts_of_effect act effect
  have sub : t.marked.Sublist (t.puts.map (·.id)) :=
    Entry.marked_sublist_puts (calls ▸ puts ▸ leg.part)
  obtain ⟨batch, rfl⟩ := leg.put_fresh
  refine ⟨sub, ?_, ?_, ?_⟩
  · intro id marked old
    have distinct := Delivered.nodup_markAll_fresh counted.distinct batch
    exact (List.nodup_append.1 distinct).2.2 id old id (puts ▸ sub.subset marked) rfl
  · intro id marked blank
    obtain ⟨x, put, rfl⟩ := List.mem_map.1 (sub.subset marked)
    have named := Delivered.rejects_of_mem_fresh (puts ▸ put)
    rw [Shared.rejects, blank] at named
    exact absurd named (by decide)
  · intro v present act' c batch fetched late
    obtain rfl : v = w := by
      refine numbered.same present member ?_
      simpa [act] using act'.symm
    have effect := shared ▸ Worker.step_of_late_batch goes fetched late
    refine ⟨Entry.puts_of_effect act effect, ?_⟩
    rw [Entry.marks, Entry.calls_of_effect effect]
    rfl

theorem Run.careful {roster : Roster} {defaults : Polling} {world : ω} {clock : Calendar.Instant}
    {j : Journal ω φ} {s : Crowd ω φ} (run : Run m (.new roster defaults world clock) j s) :
    ∀ t ∈ j, t.Careful := by
  induction run with
  | nil => exact fun _ member => absurd member List.not_mem_nil
  | cons past step ih =>
    intro t member
    obtain rfl | old := List.mem_cons.1 member
    · cases step.crew with
      | works w r act goes shared present before after was is spawned =>
        exact .works past.counted past.numbered act goes shared present
      | leaves other badges spawned =>
        obtain ⟨puts, calls⟩ := step.mail.quiet other
        exact .of_quiet puts calls
      | adds other badges spawned =>
        obtain ⟨puts, calls⟩ := step.mail.quiet other
        exact .of_quiet puts calls
    · exact ih t old

theorem Journal.marked_sublist {j : Journal ω φ} (careful : ∀ t ∈ j, t.Careful) :
    j.marked.Sublist (j.puts.map (·.id)) := by
  induction j with
  | nil => exact .refl _
  | cons t j ih =>
    have more : marked (t :: j) = marked j ++ t.marked := by simp [marked]
    rw [more, Journal.puts_cons, List.map_append]
    exact (ih fun t old => careful t (List.mem_cons_of_mem _ old)).append
      (careful t List.mem_cons_self).put

end Crowd

/-- An attempt marks what it has put, all of it at once, if its account asks for that and there is
anything. So no id is marked twice in an epoch, and none that was passed over. Whether marking
succeeds makes no difference to anything but the log. -/
theorem delivered_marked_once {roster : Roster} {defaults : Polling} {world : ω}
    {clock : Calendar.Instant} {j : Crowd.Journal ω φ} {s : Crowd ω φ}
    (run : Crowd.Run m (.new roster defaults world clock) j s) :
    (∀ serial, (∀ x ∈ j.trials serial, x.marks = x.account.dues x.puts) ∧
        (j.of serial).puts = (j.trials serial).reverse.flatMap (·.puts) ∧
        (j.of serial).marks = (j.trials serial).reverse.flatMap (·.marks)) ∧
      j.epoch.marked.Nodup ∧
      (∀ t ∈ j, t.Careful) ∧
      ∀ m', m.MarksAlike m' → ∃ j' s', Crowd.Run m' (.new roster defaults world clock) j' s' ∧
        List.Forall₂ Crowd.Entry.Alike j j' ∧ s.Alike s' := by
  have counted := run.counted
  have careful := run.careful
  refine ⟨fun serial => ?_, ?_, careful, fun m' same => run.alike same⟩
  · have tallied := run.attempted.tallied serial
    exact ⟨tallied.due, tallied.puts, tallied.marks⟩
  -- In an epoch only ids that were put are marked, in that order, and these are distinct.
  · have sub : j.epoch.marked.Sublist (j.epoch.puts.map (·.id)) :=
      Crowd.Journal.marked_sublist fun t recent =>
        careful t ((List.takeWhile_prefix _).subset recent)
    exact (counted.ids ▸ counted.distinct : (j.epoch.puts.map (·.id)).Nodup).sublist sub

end Poller

/-- Scripted mailboxes in which no message can be marked. -/
def Script.unmarkable : Mailboxes Script.Scripts Script.Step :=
  { mailboxes with
    markRead := fun scripts step _ =>
      ⟨scripts, step, step.mark.delay, [],
        if step.mark.panics then .panics "scripted panic"
        else .returns (.error (.markRead "refused"))⟩ }

theorem Script.marksAlike_unmarkable : mailboxes.MarksAlike unmarkable := by
  refine ⟨_, rfl, fun world step ids => ⟨rfl, rfl, rfl, ?_⟩⟩
  simp only [mailboxes, reply, Stage.fate]
  split
  · exact .panics _
  · split
    · exact .returns _ _
    · exact .returns _ _

namespace Poller

/-- Both attempts mark what is new in their batches, and go the same way when that is refused. -/
theorem delivered_marked_once_repeating :
    ∃ (j : Crowd.Journal Script.Scripts Script.Step) (s : Crowd Script.Scripts Script.Step),
      Crowd.Run Script.mailboxes .repeating j s ∧
        (j.trials 0).map (fun x => x.puts.map (·.id)) = [["2"], ["1"]] ∧
        j.marked = ["1", "2"] ∧ j.epoch.marked.Nodup ∧
        (∀ x ∈ j.trials 0, x.marks = x.account.dues x.puts) ∧
        ∃ j' s', Crowd.Run Script.unmarkable .repeating j' s' ∧ s.Alike s' := by
  obtain ⟨j, s, run, puts, marked⟩ :
      ∃ (j : Crowd.Journal Script.Scripts Script.Step) (s : Crowd Script.Scripts Script.Step),
        Crowd.Run Script.mailboxes .repeating j s ∧
          (j.trials 0).map (fun x => x.puts.map (·.id)) = [["2"], ["1"]] ∧
          j.marked = ["1", "2"] := by
    have run : Crowd.Run Script.mailboxes .repeating [] .repeating := .nil
    have run := run.cons (.start true rfl) |>.cons (.look [] [] rfl) |>.cons (.select _ [] [] rfl)
    have run := run.cons (.worked rfl rfl) |>.cons (.worked rfl rfl) |>.cons (.worked rfl rfl)
    have run := run.cons (.worked rfl rfl) |>.cons (.worked rfl rfl) |>.cons (.worked rfl rfl)
    have run := run.cons (.worked rfl rfl) |>.cons (.worked rfl rfl) |>.cons (.worked rfl rfl)
    exact ⟨_, _, run.cons (.worked rfl rfl), by decide +kernel, by decide +kernel⟩
  obtain ⟨tallied, distinct, -, alike⟩ := delivered_marked_once run
  obtain ⟨j', s', run', -, same⟩ := alike _ Script.marksAlike_unmarkable
  exact ⟨j, s, run, puts, marked, distinct, (tallied 0).1, j', s', run', same⟩

end Poller

end MailRound
