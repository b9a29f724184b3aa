import MailRound.Proofs.Round.Loop

namespace MailRound.Poller

variable {defaults : Polling} {plan : List Account} {final : Plain.Mail} {roster : Roster}
  {scripts : Script.Scripts} {clock : Calendar.Instant}
  {h : History Script.Scripts Script.Step} {s s' : System Script.Scripts Script.Step}
  {spot : Spot} {w : Worker Script.Step}

/-- While the flag is down the worker has nothing to do. -/
theorem OnWay.rested (sound : s.Sound) (way : OnWay defaults plan final h s spot w)
    (done : s.shared.processing = false) : w.cycle? = none ∧ w.signal = false := by
  have fits := sound.installed w way.here
  constructor
  · cases inside : w.cycle? with
    | none => rfl
    | some c =>
      have up := (fits.current c inside (way.present.inside c inside).2.symm).2.2
      rw [done] at up
      cases up
  · cases signal : w.signal with
    | false => rfl
    | true =>
      have up := fits.signalled signal (way.present.signalled signal)
      rw [done] at up
      cases up

theorem OnWay.ready (sound : s.Sound) (way : OnWay defaults plan final h s .selecting w) :
    Ready defaults plan final h.handed h.begun h.strides s.poller w := by
  obtain ⟨outside, unsignalled⟩ := way.rested sound (way.done (.inr rfl))
  have empty := way.drained rfl
  have ids := way.ids
  have total := way.total
  have begun := way.begun
  rw [empty, List.append_nil] at ids total
  rw [Worker.rest_of_idle outside unsignalled] at total
  rw [Worker.queued?, unsignalled] at begun
  exact ⟨way.here, outside, unsignalled, way.scripted, way.present.go, way.present.opened, way.calm,
    way.settings, way.accounts, ids, total, by simpa using begun, way.bound⟩

theorem ready_new (roster : Roster) (defaults : Polling) (clock : Calendar.Instant)
    (log : List Log.Event) (calm : Script.Calm scripts) :
    Ready defaults roster.enabled (Plain.run defaults roster scripts) [] [] 0
      ((Poller.new roster defaults scripts clock).manned log) (Worker.spawn 0) := by
  refine ⟨rfl, rfl, rfl, trivial, rfl, rfl, calm, rfl, rfl, rfl, rfl, rfl, Nat.le_of_eq ?_⟩
  simp [Worker.steps, Worker.spawn, Worker.queued?, manned, Poller.new, Shared.note, Cursor.new,
    Cursor.place, Nat.add_comm]

theorem Ready.nothing {p : Poller Script.Scripts Script.Step}
    {result : Bool × Poller Script.Scripts Script.Step}
    (ready : Ready defaults [] final [] [] 0 p w) (selection : Selection p result)
    (less : result.1 = false) :
    OnWay defaults [] final [⟨.start true, s, ⟨result.2, none⟩⟩] ⟨result.2, none⟩ .waiting w := by
  cases selection with
  | exhausted log past =>
    obtain ⟨accounts, -⟩ := Cursor.advance_of_none past
    have total : (⟨p.shared.world, []⟩ : Plain.Mail) = final := by simpa using ready.total
    have steps := Worker.steps_of_idle ready.outside ready.unsignalled defaults none
    have present : w.Present { p.advanced log with pending := false, processing := false } := by
      refine ⟨ready.go, ready.opened, ?_, ?_⟩
      · intro c inside
        rw [ready.outside] at inside
        cases inside
      · intro signal
        rw [ready.unsignalled] at signal
        cases signal
    refine ⟨rfl, ready.here, ready.scripted, present, ready.calm, ready.settings,
      accounts.trans ready.accounts, ready.ids, ?_, ?_, by simp, by simp, by simp, ?_⟩
    · rw [List.drop_nil, List.foldl_nil, Worker.rest_of_idle ready.outside ready.unsignalled]
      exact total
    · simp [History.begun, Transition.begins?, Worker.queued?, ready.unsignalled]
    · simpa [History.strides, Move.strides, Plain.cost, advanced, past] using steps
  | deferred log chosen absent => cases less
  | signalled log chosen v here => cases less

theorem onWay_starting {p : Poller Script.Scripts Script.Step} (calm : Script.Calm scripts)
    (starting : Starting (Poller.new roster defaults scripts clock) true p) :
    ∃ w, OnWay defaults roster.enabled (Plain.run defaults roster scripts)
      [⟨.start true, .new roster defaults scripts clock, ⟨p, none⟩⟩] ⟨p, none⟩ .waiting w := by
  cases starting with
  | running log live => simp [hasLiveWorker, Poller.new] at live
  | selecting dead =>
    obtain ⟨log, selection⟩ := auto_selection
      (Poller.new roster defaults scripts clock : Poller Script.Scripts Script.Step)
    have ready := ready_new roster defaults clock log calm
    generalize ((Poller.new roster defaults scripts clock).installWorker true).next = result
      at selection ⊢
    cases more : result.1 with
    | true => exact ⟨_, Ready.signalled (h := []) ready selection more rfl rfl⟩
    | false =>
      have none := (ready.exhausted selection more).2
      rw [← none] at ready ⊢
      exact ⟨_, ready.nothing selection more⟩

structure Arrived (defaults : Polling) (plan : List Account) (final : Plain.Mail)
    (h : History Script.Scripts Script.Step) : Prop where
  handed : h.handed = final.kept
  begun : h.begun = plan
  bound : h.strides ≤ Plain.cost defaults plan + 2

theorem OnWay.beside {move : Move} (sound : s.Sound) (way : OnWay defaults plan final h s spot w)
    (outer : move.beside = true) (step : System.Step Script.mailboxes s move s') :
    ∃ w', OnWay defaults plan final (⟨move, s, s'⟩ :: h) s' spot w' := by
  cases step with
  | work goes =>
    obtain ⟨w', way', -⟩ := way.work sound goes
    exact ⟨w', way'⟩
  | pass ms => exact ⟨w, way.frame way.free rfl rfl rfl rfl rfl rfl rfl rfl rfl rfl rfl⟩
  | setClock t => exact ⟨w, way.frame way.free rfl rfl rfl rfl rfl rfl rfl rfl rfl rfl rfl⟩
  | tell event => exact ⟨w, way.frame way.free rfl rfl rfl rfl rfl rfl rfl rfl rfl rfl rfl⟩
  | _ => cases outer

theorem handed_getMessage {x : Message} (taken : s.poller.getMessage.1 = some x) :
    History.handed (⟨.getMessage, s, s.update (·.getMessage.2)⟩ :: h) ++
      (s.update (·.getMessage.2)).shared.queue.messages = h.handed ++ s.shared.queue.messages := by
  have found : s.shared.queue.get?.1 = some x := taken
  have split : x :: s.shared.queue.get?.2.messages = s.shared.queue.messages := by
    cases messages : s.shared.queue.messages with
    | nil => simp [Queue.get?, messages] at found
    | cons y ys =>
      obtain rfl : y = x := by simpa [Queue.get?, messages] using found
      simp [Queue.get?, messages]
  have kept : (s.update (·.getMessage.2)).shared.queue = s.shared.queue.get?.2 := rfl
  rw [handed_cons, kept, ← split]
  simp [Transition.handed, taken]

theorem OnWay.takes {x : Message} (way : OnWay defaults plan final h s spot w)
    (going : spot ≠ .selecting) (taken : s.poller.getMessage.1 = some x) :
    OnWay defaults plan final
      (⟨.getMessage, s, s.update (·.getMessage.2)⟩ :: h) (s.update (·.getMessage.2)) spot w := by
  have handed := handed_getMessage (h := h) taken
  have begun : History.begun (⟨.getMessage, s, s.update (·.getMessage.2)⟩ :: h) = h.begun :=
    begun_cons_of_none rfl
  have present := way.present
  refine ⟨way.free, way.here, way.scripted, ⟨present.go, present.opened, present.inside,
    present.signalled⟩, way.calm, way.settings, way.accounts, ?_, ?_, ?_, way.busy, way.done,
    fun selecting => absurd selecting going, ?_⟩
  · exact way.ids.trans (congrArg _ handed.symm)
  · have total := way.total
    rw [← handed] at total
    exact total
  · rw [begun]
    exact way.begun
  · rw [strides_cons]
    exact way.bound

theorem getMessage_none (empty : s.poller.getMessage.1 = none) :
    s.shared.queue.messages = [] ∧ s.update (·.getMessage.2) = s := by
  have missing : s.shared.queue.get?.1 = none := empty
  cases messages : s.shared.queue.messages with
  | nil =>
    have same : s.shared.queue.get?.2 = s.shared.queue := by simp [Queue.get?, messages]
    refine ⟨rfl, ?_⟩
    simp only [System.update, getMessage, modify]
    rw [same]
  | cons y ys => simp [Queue.get?, messages] at missing

theorem OnWay.looks {spot' : Spot} (way : OnWay defaults plan final h s spot w)
    (done : spot' = .closing ∨ spot' = .selecting → spot = .closing)
    (step : System.Step Script.mailboxes s .getMessage s') (empty : s.poller.getMessage.1 = none) :
    OnWay defaults plan final (⟨.getMessage, s, s'⟩ :: h) s' spot' w := by
  obtain ⟨vacant, same⟩ := getMessage_none empty
  have handed : Transition.handed ⟨.getMessage, s, s⟩ = [] := by simp [Transition.handed, empty]
  have there : OnWay defaults plan final h s spot' w :=
    way.at_spot (fun spot'' => way.done (.inl (done spot''))) fun _ => vacant
  cases step with
  | getMessage free =>
    rw [same]
    exact there.frame free rfl rfl rfl rfl rfl rfl rfl rfl rfl handed rfl

theorem Loop.arrives (calm : Script.Calm scripts)
    (loop : Loop Script.mailboxes (.new roster defaults scripts clock) h s spot) :
    (spot ≠ .ended →
      ∃ w, OnWay defaults roster.enabled (Plain.run defaults roster scripts) h s spot w) ∧
    (spot = .ended →
      Arrived defaults roster.enabled (Plain.run defaults roster scripts) h) := by
  have sound {h s} (run : System.Run Script.mailboxes (.new roster defaults scripts clock) h s) :
      s.Sound := run.sound (System.sound_new roster defaults scripts clock)
  -- By induction over the history: `OnWay` is kept up to the selection that finds no account.
  induction loop with
  | starts step =>
    refine ⟨fun _ => ?_, by simp⟩
    cases step with
    | start auto free =>
      rw [System.update_of_free free]
      exact onWay_starting calm (start_starting _ true)
  | beside past going outer step ih =>
    obtain ⟨w, way⟩ := ih.1 going
    exact ⟨fun _ => way.beside (sound past.run) outer step, fun ended => absurd ended going⟩
  | timesOut limit past step ih =>
    obtain ⟨w, way⟩ := ih.1 (by simp)
    refine ⟨fun _ => ⟨w, ?_⟩, by simp⟩
    cases step with
    | waitTimesOut _ free up =>
      exact (way.at_spot (by simp) (by simp)).frame free rfl rfl rfl rfl rfl rfl rfl rfl rfl rfl rfl
  | completes past step ih =>
    obtain ⟨w, way⟩ := ih.1 (by simp)
    refine ⟨fun _ => ⟨w, ?_⟩, by simp⟩
    cases step with
    | waitEnds free done =>
      exact (way.at_spot (fun _ => done) (by simp)).frame free rfl rfl rfl rfl rfl rfl rfl rfl rfl
        rfl rfl
  | takes past draining step taken ih =>
    obtain ⟨w, way⟩ := ih.1 (by rintro rfl; simp at draining)
    refine ⟨fun _ => ⟨w, ?_⟩, by rintro rfl; simp at draining⟩
    cases step with
    | getMessage free => exact way.takes (by rintro rfl; simp at draining) taken
  | looked past step empty ih =>
    obtain ⟨w, way⟩ := ih.1 (by simp)
    exact ⟨fun _ => ⟨w, way.looks (by simp) step empty⟩, by simp⟩
  | closed past step empty ih =>
    obtain ⟨w, way⟩ := ih.1 (by simp)
    exact ⟨fun _ => ⟨w, way.looks (by simp) step empty⟩, by simp⟩
  | selects past step more ih =>
    obtain ⟨w, way⟩ := ih.1 (by simp)
    refine ⟨fun _ => ⟨{ w with signal := true }, ?_⟩, by simp⟩
    cases step with
    | next free =>
      rw [System.update_of_free free]
      exact (way.ready (sound past.run)).signalled (sound past.run).selection more rfl rfl
  | @ends h s s' past step none ih =>
    obtain ⟨w, way⟩ := ih.1 (by simp)
    have ready := way.ready (sound past.run)
    obtain ⟨last, begun⟩ := ready.exhausted (sound past.run).selection none
    have bound := ready.bound
    refine ⟨by simp, fun _ => ⟨?_, ?_, ?_⟩⟩
    · exact (handed_cons_of_nil rfl).trans (by rw [last])
    · exact (begun_cons_of_none rfl).trans begun
    · rw [strides_cons]
      simp only [Move.strides, Bool.toNat_true]
      omega

end MailRound.Poller
