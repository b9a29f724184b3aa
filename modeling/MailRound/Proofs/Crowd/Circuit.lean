import MailRound.Proofs.Crowd.Run

namespace MailRound

namespace Cursor

theorem place_advance {c : Cursor} {k : Nat} (here : c.place = k % (c.accounts.length + 1)) :
    c.advance.2.place = (k + 1) % (c.accounts.length + 1) := by
  have below : c.place < c.accounts.length + 1 := here ▸ Nat.mod_lt _ (Nat.succ_pos _)
  rw [← Nat.mod_add_mod, ← here, advance_eq]
  by_cases inside : c.place < c.accounts.length
  · rw [if_pos inside, Nat.mod_eq_of_lt (Nat.succ_lt_succ inside)]
    rfl
  · obtain last : c.place = c.accounts.length := by omega
    rw [if_neg inside, last, Nat.mod_self]
    rfl

theorem advance_eq_false_iff (c : Cursor) : c.advance.1 = false ↔ c.advance.2.place = 0 := by
  rw [advance_eq]
  split
  · exact iff_of_false nofun nofun
  · exact iff_of_true rfl rfl

theorem of_place {c : Cursor} (inside : c.place ≤ c.accounts.length) :
    match c.place with
    | 0 => c.index = none ∧ c.current? = none
    | i + 1 => c.index = some i ∧ ∃ a, c.accounts[i]? = some a ∧ c.current? = some a := by
  obtain ⟨accounts, index⟩ := c
  cases index with
  | none => exact ⟨rfl, rfl⟩
  | some i =>
    have there : accounts[i]? = some accounts[i] := List.getElem?_eq_getElem inside
    exact ⟨rfl, accounts[i], there, there⟩

end Cursor

namespace Poller

variable {ω φ : Type} {m : Mailboxes ω φ}

theorem selectNext_returned (p : Poller ω φ) (seen : Option Nat) :
    (p.selectNext seen).1 = p.shared.cursor.advance.1 := by
  unfold selectNext
  dsimp only [modify]
  cases p.shared.cursor.advance with
  | mk more cursor =>
    cases more with
    | false => rfl
    | true => cases seen <;> rfl

namespace Crowd

namespace Entry

variable (t : Entry ω φ)

def selects : Bool :=
  match t.act with
  | .select _ => true
  | _ => false

def returned? : Option Bool :=
  match t.act with
  | .select seen => some (t.before.poller.selectNext seen).1
  | _ => none

/-- What an entry does to the cursor: only selections and resets move it. -/
inductive Course : Prop
  | selects (act : t.selects = true) (other : t.forgets = false)
    (returned : t.returned? = some t.before.shared.cursor.advance.1)
    (cursor : t.after.shared.cursor = t.before.shared.cursor.advance.2)
  | forgets (act : t.forgets = true) (unreturned : t.returned? = none)
    (cursor : t.after.shared.cursor = Cursor.new t.before.poller.accounts)
  | stays (act : t.selects = false) (other : t.forgets = false) (unreturned : t.returned? = none)
    (cursor : t.after.shared.cursor = t.before.shared.cursor)

end Entry

namespace Journal

/-- How many selections there were since the last reset. -/
def selections (j : Journal ω φ) : Nat := j.epoch.countP (·.selects)

variable {t : Entry ω φ} (j : Journal ω φ)

theorem selections_cons_of_selects (act : t.selects = true) (other : t.forgets = false) :
    selections (t :: j) = j.selections + 1 := by
  rw [selections, epoch_cons other, List.countP_cons_of_pos act]
  rfl

theorem selections_cons_of_stays (act : t.selects = false) (other : t.forgets = false) :
    selections (t :: j) = j.selections := by
  rw [selections, epoch_cons other, List.countP_cons_of_neg (by simp [act])]
  rfl

theorem selections_cons_of_forgets (act : t.forgets = true) : selections (t :: j) = 0 := by
  rw [selections, epoch_cons_of_forgets act]
  rfl

end Journal

theorem Step.accounts {s s' : Crowd ω φ} {act : Act} (step : Step m s act s') :
    s'.poller.accounts = s.poller.accounts := by
  cases step with
  | select seen before after here =>
    have choice := selectNext_choice s.poller seen
    dsimp only
    generalize (s.poller.selectNext seen).2 = p at choice
    cases choice <;> rfl
  | startRunning auto live =>
    rw [update, start_of_live live]
    rfl
  | start auto dead =>
    have manning := installWorker_manning s.poller auto
    dsimp only
    generalize s.poller.installWorker auto = p at manning
    cases manning <;> rfl
  | stop w found => rw [takeWorker_eq found]
  | release serial deadline before after here ended =>
    obtain ⟨status, log, released⟩ := release_eq s.poller serial
    rw [released]
  | work w r goes place => cases place <;> rfl
  | _ => rfl

theorem Step.course {s s' : Crowd ω φ} {act : Act} (step : Step m s act s') :
    Entry.Course ⟨act, s, s'⟩ := by
  cases step with
  | select seen before after here =>
    refine .selects rfl rfl (congrArg some (selectNext_returned s.poller seen)) ?_
    have choice := selectNext_choice s.poller seen
    dsimp only [shared]
    generalize (s.poller.selectNext seen).2 = p at choice
    cases choice <;> rfl
  | forget seen before after here => exact .forgets rfl rfl rfl
  | startRunning auto live =>
    refine .stays rfl rfl rfl ?_
    rw [update, start_of_live live]
    rfl
  | start auto dead =>
    refine .stays rfl rfl rfl ?_
    have manning := installWorker_manning s.poller auto
    dsimp only [shared]
    generalize s.poller.installWorker auto = p at manning
    cases manning <;> rfl
  | stop w found =>
    refine .stays rfl rfl rfl ?_
    rw [takeWorker_eq found]
  | release serial deadline before after here ended =>
    obtain ⟨status, log, released⟩ := release_eq s.poller serial
    refine .stays rfl rfl rfl ?_
    rw [released]
  | work w r goes place =>
    obtain ⟨made, put, effect, -⟩ := Worker.step_turn goes
    refine .stays rfl rfl rfl ?_
    exact (congrArg _ place.shared_eq).trans effect.stays.cursor
  | _ => exact .stays rfl rfl rfl rfl

/-- A poller stands where the selections since the last reset have taken it. -/
structure Placed (roster : Roster) (j : Journal ω φ) (s : Crowd ω φ) : Prop where
  accounts : s.poller.accounts = roster.accounts
  enabled : s.shared.cursor.accounts = roster.enabled
  place : s.shared.cursor.place = j.selections % (roster.enabled.length + 1)

theorem Placed.goes {roster : Roster} {j : Journal ω φ} {t : Entry ω φ}
    (h : Placed roster j t.before) (accounts : t.after.poller.accounts = t.before.poller.accounts)
    (course : t.Course) : Placed roster (t :: j) t.after := by
  have kept := accounts.trans h.accounts
  cases course with
  | selects act other returned cursor =>
    have place := h.place
    rw [← h.enabled] at place
    refine ⟨kept, ?_, ?_⟩
    · rw [cursor, Cursor.accounts_advance, h.enabled]
    · rw [cursor, Cursor.place_advance place, h.enabled, j.selections_cons_of_selects act other]
  | forgets act unreturned cursor =>
    refine ⟨kept, ?_, ?_⟩
    · rw [cursor, h.accounts]
      rfl
    · rw [cursor, j.selections_cons_of_forgets act, Nat.zero_mod]
      rfl
  | stays act other unreturned cursor =>
    exact ⟨kept, cursor ▸ h.enabled, by rw [cursor, h.place, j.selections_cons_of_stays act other]⟩

variable {roster : Roster} {defaults : Polling} {world : ω} {clock : Calendar.Instant}
  {j : Journal ω φ} {s : Crowd ω φ}

theorem Run.placed (run : Run m (.new roster defaults world clock) j s) : Placed roster j s := by
  induction run with
  | nil => exact ⟨rfl, rfl, (Nat.zero_mod _).symm⟩
  | cons past step ih => exact ih.goes step.accounts step.course

/-- A selection returns false exactly if it has gone behind the last account. -/
theorem Run.returned (run : Run m (.new roster defaults world clock) j s) :
    ∀ later t earlier, j = later ++ t :: earlier → ∀ more, t.returned? = some more →
      (more = false ↔ Journal.selections (t :: earlier) % (roster.enabled.length + 1) = 0) := by
  induction run with
  | nil => exact fun later t earlier same => by simp at same
  | @cons j s act s' past step ih =>
    rintro (_ | ⟨u, later⟩) t earlier same more returned
    · -- The newest entry: the place that it has come to tells what it returned.
      obtain ⟨rfl, rfl⟩ := List.cons.inj same
      have placed := past.placed.goes step.accounts step.course
      cases step.course with
      | selects _ _ told cursor =>
        obtain rfl := Option.some.inj (told.symm.trans returned)
        rw [← placed.place, cursor]
        exact s.shared.cursor.advance_eq_false_iff
      | forgets _ unreturned => cases unreturned.symm.trans returned
      | stays _ _ unreturned => cases unreturned.symm.trans returned
    · exact ih later t earlier (List.cons.inj same).2 more returned

end Crowd

/-- After `k` selections since the last reset, by whatever callers and with whatever else in between,
a poller stands on account `k` of the enabled ones, counted round with one place more that is no
account, and the accounts to choose from are the enabled ones as ever. The selection that brings it
to that place, and no other, has returned false. -/
theorem selections_go_round {roster : Roster} {defaults : Polling} {world : ω}
    {clock : Calendar.Instant} {j : Crowd.Journal ω φ} {s : Crowd ω φ}
    (run : Crowd.Run m (.new roster defaults world clock) j s) :
    s.shared.cursor.accounts = roster.enabled ∧
    (match j.selections % (roster.enabled.length + 1) with
      | 0 => s.shared.cursor.index = none ∧ s.shared.cursor.current? = none
      | i + 1 => s.shared.cursor.index = some i ∧ ∃ a, roster.enabled[i]? = some a ∧
        a.enabled = true ∧ s.shared.cursor.current? = some a) ∧
    ∀ later t earlier, j = later ++ t :: earlier → ∀ more, t.returned? = some more →
      (more = false ↔
        Crowd.Journal.selections (t :: earlier) % (roster.enabled.length + 1) = 0) := by
  obtain ⟨-, enabled, place⟩ := run.placed
  have inside : s.shared.cursor.place ≤ s.shared.cursor.accounts.length := by
    rw [place, enabled]
    exact Nat.le_of_lt_succ (Nat.mod_lt _ (Nat.succ_pos _))
  have stands := Cursor.of_place inside
  rw [place, enabled] at stands
  refine ⟨enabled, ?_, run.returned⟩
  revert stands
  cases j.selections % (roster.enabled.length + 1) with
  | zero => exact id
  | succ i =>
    rintro ⟨index, a, there, current⟩
    exact ⟨index, a, there, (List.mem_filter.1 (List.mem_of_getElem? there)).2, current⟩

def gappedBoxes : Roster :=
  ⟨[⟨"home", "imap", true, none, [], .default, none⟩,
    ⟨"old", "imap", false, none, [], .default, none⟩,
    ⟨"work", "imap", true, none, [], .default, none⟩]⟩

/-- A start selects the first account and further selections go on, with a worker at work and a stop
between them. The fourth selection comes to the first account again, after one that returned
false. -/
theorem selections_go_round_gapped :
    ∃ (j : Crowd.Journal Script.Scripts Script.Step) (s : Crowd Script.Scripts Script.Step),
      Crowd.Run Script.mailboxes (.new gappedBoxes ⟨1, 0, 10⟩ [] ⟨0, 0⟩) j s ∧
        j.filterMap (·.returned?) = [true, false, true, true] ∧
        s.shared.cursor.accounts.map (·.id) = ["home", "work"] ∧
        s.shared.cursor.index = some 0 ∧ s.shared.cursor.current?.map (·.id) = some "home" ∧
        ∀ later t earlier, j = later ++ t :: earlier → t.returned? = some false →
          Crowd.Journal.selections (t :: earlier) % 3 = 0 := by
  obtain ⟨j, s, run, returns, four⟩ :
      ∃ (j : Crowd.Journal Script.Scripts Script.Step) (s : Crowd Script.Scripts Script.Step),
        Crowd.Run Script.mailboxes (.new gappedBoxes ⟨1, 0, 10⟩ [] ⟨0, 0⟩) j s ∧
          j.filterMap (·.returned?) = [true, false, true, true] ∧ j.selections = 4 := by
    have run : Crowd.Run Script.mailboxes (.new gappedBoxes ⟨1, 0, 10⟩ [] ⟨0, 0⟩) [] _ := .nil
    have run := run.cons (.start true rfl) |>.cons (.look [] [] rfl) |>.cons (.select _ [] [] rfl)
    have run := run.cons .next |>.cons (.worked rfl rfl) |>.cons (.select _ [] [] rfl)
    have run := run.cons .next |>.cons (.select _ [] [] rfl) |>.cons (.stop _ rfl)
    have run := run.cons .next |>.cons (.select _ [] [.retire _] rfl)
    exact ⟨_, _, run, rfl, rfl⟩
  obtain ⟨accounts, stands, returned⟩ := selections_go_round run
  have first : j.selections % (gappedBoxes.enabled.length + 1) = 0 + 1 := by
    rw [four]
    rfl
  rw [first] at stands
  obtain ⟨index, a, there, -, current⟩ := stands
  obtain rfl := Option.some.inj there
  exact ⟨j, s, run, returns, congrArg _ accounts, index, congrArg _ current,
    fun later t earlier same told => (returned later t earlier same false told).1 rfl⟩

end Poller

end MailRound
