import MailRound.Proofs.Round.Ending

namespace MailRound.Poller

/-- A step asks for a fetcher only for the selected account. -/
theorem System.Step.asks {ω φ : Type} {m : Mailboxes ω φ} {s s' : System ω φ} {h : History ω φ}
    {move : Move} {a : Account} (sound : s.Sound) (traced : Traced h s) (step : Step m s move s')
    (asked : .create a ∈ s'.shared.calls) :
    .create a ∈ s.shared.calls ∨ s.shared.cursor.current? = some a := by
  by_cases work : move = .work
  · subst work
    cases step with
    | work goes =>
      obtain ⟨w, r, made, put, turned⟩ := sound.turned goes
      rw [System.shared, turned.effect.calls] at asked
      obtain before | new := List.mem_append.1 asked
      · exact .inl before
      · rw [← turned.calls] at new
        exact .inr ((clean_work sound traced goes).created a new).1
  · exact .inl ((step.outside sound work).calls ▸ asked)

section

variable {roster : Roster} {defaults : Polling} {scripts : Script.Scripts}
  {clock : Calendar.Instant} {h : History Script.Scripts Script.Step}
  {s : System Script.Scripts Script.Step} {spot : Spot}

theorem Loop.created (calm : Script.Calm scripts)
    (loop : Rounds roster defaults scripts clock h s spot) :
    ∀ a, .create a ∈ s.shared.calls → a ∈ roster.enabled := by
  have grows {h s spot move s'} (past : Rounds roster defaults scripts clock h s spot)
      (going : spot ≠ .ended) (step : System.Step Script.mailboxes s move s')
      (ih : ∀ a, .create a ∈ s.shared.calls → a ∈ roster.enabled) :
      ∀ a, .create a ∈ s'.shared.calls → a ∈ roster.enabled := by
    intro a asked
    obtain ⟨w, way⟩ := (past.arrives calm).1 going
    have traced := past.run.traced (System.sound_new roster defaults scripts clock) rfl
    obtain before | current := step.asks past.sound traced asked
    · exact ih a before
    · exact way.selected current
  induction loop with
  | starts step =>
    rw [(step.outside (System.sound_new roster defaults scripts clock) (by simp)).calls]
    intro a asked
    cases (asked : Call.create a ∈ ([] : List Call))
  | beside past going outer step ih => exact grows past going step ih
  | timesOut limit past step ih => exact grows past (by simp) step ih
  | completes past step ih => exact grows past (by simp) step ih
  | takes past draining step taken ih => exact grows past (by rintro rfl; simp at draining) step ih
  | looked past step empty ih => exact grows past (by simp) step ih
  | closed past step empty ih => exact grows past (by simp) step ih
  | selects past step more ih => exact grows past (by simp) step ih
  | ends past step none ih => exact grows past (by simp) step ih

theorem Loop.strides_le (calm : Script.Calm scripts)
    (loop : Rounds roster defaults scripts clock h s spot) :
    h.strides ≤ Plain.cost defaults roster.enabled + 2 := by
  obtain ⟨going, ended⟩ := loop.arrives calm
  by_cases last : spot = .ended
  · exact (ended last).bound
  · obtain ⟨w, way⟩ := going last
    have bound := way.bound
    omega

def GoesAfter (p : Poller Script.Scripts Script.Step) (ms : Nat) : Prop :=
  ((p.modify fun s => { s with now := s.now + ms }).stepWorker Script.mailboxes).isSome = true

theorem Loop.goes (calm : Script.Calm scripts)
    (loop : Rounds roster defaults scripts clock h s spot) (going : spot ≠ .ended)
    (busy : s.shared.processing = true) : ∃ ms, s.poller.GoesAfter ms := by
  obtain ⟨w, way⟩ := (loop.arrives calm).1 going
  cases step : s.poller.stepWorker Script.mailboxes with
  | some p => exact ⟨0, Option.isSome_iff_exists.2 ⟨p, step⟩⟩
  | none =>
    have alive := Worker.finished_of_scripted way.scripted (loop.sound.installed w way.here).here
    have active := active?_of_worker way.here
    have still := loop.sound.stuck.1 step w active
    obtain ⟨t, due, -⟩ | ⟨outside, unsignalled⟩ := Worker.waits_of_step_none still alive
    · have later := loop.sound.step (.pass (m := Script.mailboxes) t)
      exact ⟨t, later.goes_of_due active due (Nat.le_add_left t _)⟩
    -- A worker with nothing to do would have taken the flag down.
    · have up := way.busy busy
      rw [outside, unsignalled] at up
      simp at up

theorem Rounds.start (roster : Roster) (defaults : Polling) (scripts : Script.Scripts)
    (clock : Calendar.Instant) : Rounds roster defaults scripts clock
    [⟨.start true, .new roster defaults scripts clock,
      ⟨(Poller.new roster defaults scripts clock).start true, none⟩⟩]
    ⟨(Poller.new roster defaults scripts clock).start true, none⟩ .waiting :=
  .starts (.start true rfl)

end

/-- For scripts in which no call panics: a history of the loop makes a bounded number of steps and
selections, it never gets stuck, it asks for fetchers of enabled accounts only, and at its end it
has handed out what the plain program keeps, with one cycle for each enabled account. The program,
whatever its limit for a wait, comes to such an end. -/
theorem loop_refines_plain (roster : Roster) (defaults : Polling) (scripts : Script.Scripts)
    (clock : Calendar.Instant) (calm : Script.Calm scripts) :
    (∀ h s spot, Rounds roster defaults scripts clock h s spot →
      (spot = .ended →
        h.handed = (Plain.run defaults roster scripts).kept ∧ h.begun = roster.enabled) ∧
      (∀ a, .create a ∈ s.shared.calls → a ∈ roster.accounts ∧ a.enabled = true) ∧
      h.strides ≤ Plain.cost defaults roster.enabled + 2 ∧
      (spot ≠ .ended → s.shared.processing = true → ∃ ms, s.poller.GoesAfter ms)) ∧
    ∀ limit, ∃ enough h p, Rounds roster defaults scripts clock h ⟨p, none⟩ .ended ∧
      ∀ rounds turns, enough ≤ rounds → roster.enabled.length < turns →
        Program.pollAll Script.mailboxes limit rounds turns
            ((Poller.new roster defaults scripts clock).start true) =
          ⟨true, (Plain.run defaults roster scripts).kept, p⟩ := by
  refine ⟨?_, ?_⟩
  · intro h s spot loop
    refine ⟨fun last => ?_, fun a asked => ?_, loop.strides_le calm, loop.goes calm⟩
    · have arrived := (loop.arrives calm).2 last
      exact ⟨arrived.handed, arrived.begun⟩
    · exact List.mem_filter.1 (loop.created calm a asked)
  · intro limit
    obtain ⟨enough, messages, p, same, h, loop, handed⟩ := pollAll_ends calm limit _ _
      (Rounds.start roster defaults scripts clock)
    have kept := ((loop.arrives calm).2 rfl).handed
    rw [handed] at kept
    obtain rfl : messages = _ := kept
    refine ⟨enough, h, p, loop, fun rounds turns many above => same rounds turns many ?_⟩
    omega

/-- Two boxes with a disabled one between them. -/
def twoBoxes : Roster :=
  ⟨[⟨"home", "imap", true, none, [], .default, none⟩,
    ⟨"old", "imap", false, none, [], .default, none⟩,
    ⟨"work", "imap", true, none, [], .default, none⟩]⟩

/-- The first attempt fails after a while; of the messages that come later one has a blank id and
one comes twice. -/
def twoScripts : Script.Scripts :=
  [("home", [{ Script.Step.empty with connect := ⟨700, some (.connection "refused"), false⟩ },
      { Script.Step.empty with batch := [plainMessage "1", plainMessage " ", plainMessage "2"] }]),
    ("work", [{ Script.Step.empty with
      fetch := ⟨900, none, false⟩, batch := [plainMessage "2", plainMessage "3"] }])]

/-- The same boxes; the first one asks for an attempt more than the defaults give. -/
def insistentBoxes : Roster :=
  ⟨[⟨"home", "imap", true, none, [], .default, some ⟨some 2, none, none⟩⟩,
    ⟨"old", "imap", false, none, [], .default, none⟩,
    ⟨"work", "imap", true, none, [], .default, none⟩]⟩

theorem loop_refines_plain_insistentBoxes :
    Script.Calm twoScripts ∧ ∀ limit, ∃ enough h p,
      Rounds insistentBoxes ⟨1, 0, 10⟩ twoScripts ⟨0, 0⟩ h ⟨p, none⟩ .ended ∧
        h.begun = insistentBoxes.enabled ∧
        ∀ rounds turns, enough ≤ rounds → 2 < turns →
          Program.pollAll Script.mailboxes limit rounds turns
              ((Poller.new insistentBoxes ⟨1, 0, 10⟩ twoScripts ⟨0, 0⟩).start true) =
            ⟨true, [plainMessage "1", plainMessage "2", plainMessage "3"], p⟩ := by
  have calm : Script.Calm twoScripts := by decide
  obtain ⟨histories, program⟩ :=
    loop_refines_plain insistentBoxes ⟨1, 0, 10⟩ twoScripts ⟨0, 0⟩ calm
  refine ⟨calm, fun limit => ?_⟩
  obtain ⟨enough, h, p, loop, same⟩ := program limit
  -- Without its own setting the first box would not be tried again after it refused.
  have kept : (Plain.run ⟨1, 0, 10⟩ insistentBoxes twoScripts).kept =
      [plainMessage "1", plainMessage "2", plainMessage "3"] := rfl
  rw [kept] at same
  exact ⟨enough, h, p, loop, ((histories h _ _ loop).1 rfl).2, same⟩

end MailRound.Poller
