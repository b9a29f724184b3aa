import MailRound.Proofs.Poller.Moves

namespace MailRound.Poller

variable {ω φ : Type}

/-- No fetcher is asked for, and nothing comes into the queue or among the delivered ids. -/
structure Transition.AddsNothing (t : Transition ω φ) : Prop where
  created : createdIn t.after.shared.calls = createdIn t.before.shared.calls
  queue : t.after.shared.queue.messages <:+ t.before.shared.queue.messages
  stats : t.after.shared.queue.stats = t.before.shared.queue.stats
  delivered : t.after.shared.delivered.ids ⊆ t.before.shared.delivered.ids

namespace System

variable {m : Mailboxes ω φ} {s s' : System ω φ} {p : Poller ω φ} {w : Worker φ}
  {r : Worker.Step ω φ} {made : List Call} {put : List Message}

/-- While the flag is down the worker is in no cycle that is still wanted. -/
theorem Turned.quiet (sound : s.Sound) (done : s.shared.processing = false)
    (h : Turned m s w r p made put) :
    createdIn made = [] ∧ put = [] ∧ p.shared.processing = false := by
  obtain ⟨active, -, same⟩ := h.worked.active
  rw [same]
  have down {v : Worker φ} {c : Cycle} (goes : v.Goes s.shared c r) : r.1.processing = false := by
    cases goes with
    | rests self flag => rw [flag, done, ite_self]
    | goesOn phase c' self inside account generation flag => exact flag.trans done
  -- A cycle of the present selection would keep the flag up.
  have stale {c : Cycle} (inside : w.cycle? = some c) : s.shared.cycle ≠ c.generation := by
    intro newest
    have busy := (sound.current active inside newest.symm).2.2.2
    rw [done] at busy
    cases busy
  cases h.turn with
  | wakes fresh self flag quiet empty => exact ⟨by rw [quiet]; rfl, empty, flag.trans done⟩
  | exits idle why self flag quiet empty => exact ⟨by rw [quiet]; rfl, empty, flag.trans done⟩
  | skips idle go signal unselected self flag quiet empty => exact ⟨by rw [quiet]; rfl, empty, flag⟩
  | begins account selected goes calls empty =>
    have busy := (sound.begins active selected).2.2
    rw [done] at busy
    cases busy
  | lands c batch fetched goes taken =>
    obtain ⟨newest, -⟩ | ⟨-, empty, calls⟩ := taken
    · exact absurd newest (stale (Worker.cycle?_of_batch? fetched))
    · exact ⟨by rw [calls]; rfl, empty, down goes⟩
  | goesOn c inside other goes calls unmarked empty =>
    obtain quiet | ⟨-, -, newest⟩ := calls
    · exact ⟨quiet, empty, down goes⟩
    · exact absurd newest (stale inside)
  | dies c inside other message self flag quiet empty =>
    exact ⟨by rw [quiet]; rfl, empty, flag.trans done⟩

theorem get?_sublist (q : Queue) : (q.get?.1.toList ++ q.get?.2.messages).Sublist q.messages := by
  cases h : q.messages with
  | nil => simp [Queue.get?, h]
  | cons x xs => simp [Queue.get?, h]

theorem takeLast?_sublist (q : Queue) :
    (q.takeLast?.1.toList ++ q.takeLast?.2.messages).Sublist q.messages := by
  have last : (q.messages.getLast?).toList.Sublist q.messages := by
    cases h : q.messages.getLast? with
    | none => exact List.nil_sublist _
    | some x => exact List.singleton_sublist.2 (List.mem_of_getLast? h)
  simpa [Queue.takeLast?, Queue.clear] using last

/-- What a move without selection and start does while the flag is down. -/
structure Rests (t : Transition ω φ) : Prop where
  adds : t.AddsNothing
  done : t.after.shared.processing = false
  handed : (t.handed ++ t.after.shared.queue.messages).Sublist t.before.shared.queue.messages

theorem Rests.plain {move : Move} (done : s.shared.processing = false)
    (calls : s'.shared.calls = s.shared.calls) (queue : s'.shared.queue = s.shared.queue)
    (delivered : s'.shared.delivered = s.shared.delivered)
    (flag : s'.shared.processing = s.shared.processing)
    (nothing : Transition.handed ⟨move, s, s'⟩ = []) : Rests ⟨move, s, s'⟩ := by
  refine ⟨⟨by rw [calls], ?_, by rw [queue], by rw [delivered]; exact fun _ => id⟩,
    flag.trans done, ?_⟩
  · simp only [queue, List.suffix_refl]
  · rw [nothing, queue]
    exact List.Sublist.refl _

theorem Step.rests {move : Move} (sound : s.Sound) (done : s.shared.processing = false)
    (step : Step m s move s') (selected : move ≠ .next) (started : ∀ auto, move ≠ .start auto) :
    Rests ⟨move, s, s'⟩ := by
  cases step with
  | start auto free => exact absurd rfl (started auto)
  | next free => exact absurd rfl selected
  | reset free =>
    exact ⟨⟨rfl, List.nil_suffix, rfl, List.nil_subset _⟩, rfl, List.nil_sublist _⟩
  | getMessage free =>
    have stats : s.shared.queue.get?.2.stats = s.shared.queue.stats := by
      unfold Queue.get?
      split <;> rfl
    exact ⟨⟨rfl, get?_suffix _, stats, fun _ => id⟩, done, get?_sublist _⟩
  | getLastMessage free =>
    exact ⟨⟨rfl, List.nil_suffix, rfl, fun _ => id⟩, done, takeLast?_sublist _⟩
  | waitEnds free _ => exact .plain done rfl rfl rfl rfl rfl
  | waitTimesOut limit free busy => exact .plain done rfl rfl rfl rfl rfl
  | stopIdle free absent => exact .plain done rfl rfl rfl rfl rfl
  | stop free found =>
    rw [stop_eq found]
    exact ⟨⟨rfl, List.suffix_refl _, rfl, fun _ => id⟩, rfl, List.Sublist.refl _⟩
  | @stopEnds serial deadline waits ended =>
    obtain ⟨status, log, h⟩ := release_eq s.poller serial
    rw [h]
    exact .plain done rfl rfl rfl rfl rfl
  | @work p goes =>
    obtain ⟨w, r, made, put, h⟩ := sound.turned goes
    obtain ⟨quiet, rfl, down⟩ := h.quiet sound done
    have effect := h.effect
    refine ⟨⟨?_, ?_, ?_, ?_⟩, down, ?_⟩
    · rw [effect.calls, createdIn_append, quiet, List.append_nil]
    · rw [effect.queue]
      exact List.suffix_refl _
    · rw [effect.queue]
      rfl
    · rw [effect.delivered]
      simp [Delivered.markAll]
    · rw [effect.queue]
      exact List.Sublist.refl _
  | pass ms => exact .plain done rfl rfl rfl rfl rfl
  | setClock t => exact .plain done rfl rfl rfl rfl rfl
  | tell event => exact .plain done rfl rfl rfl rfl rfl

/-- From a state in which nothing is being polled, by induction over what follows. -/
theorem Run.rests {later : History ω φ} (sound : s.Sound) (done : s.shared.processing = false)
    (further : Run m s later s')
    (idle : ∀ t ∈ later, t.move ≠ .next ∧ ∀ auto, t.move ≠ .start auto) :
    s'.shared.processing = false ∧ (∀ t ∈ later, t.AddsNothing) ∧
      (later.handed ++ s'.shared.queue.messages).Sublist s.shared.queue.messages := by
  induction further with
  | nil => exact ⟨done, by simp, List.Sublist.refl _⟩
  | @cons h s₁ move s₂ past step ih =>
    obtain ⟨down, adds, taken⟩ := ih fun t ht => idle t (List.mem_cons_of_mem _ ht)
    obtain ⟨selected, started⟩ := idle _ (List.mem_cons_self ..)
    have rests := step.rests (past.sound sound) down selected started
    refine ⟨rests.done, ?_, ?_⟩
    · intro t ht
      obtain rfl | ht := List.mem_cons.1 ht
      · exact rests.adds
      · exact adds t ht
    · rw [handed_cons, List.append_assoc]
      exact (List.Sublist.append_left rests.handed _).trans taken

end System

/-- Once nothing is being polled, a wait comes back at once, and whatever follows without a
selection or a start asks for no fetcher and adds nothing: the caller gets what is in the queue now
and no more. -/
theorem completion_is_final {m : Mailboxes ω φ} {roster : Roster} {defaults : Polling} {world : ω}
    {clock : Calendar.Instant} {h later : History ω φ} {s s' : System ω φ}
    (run : System.Run m (System.new roster defaults world clock) h s)
    (done : s.shared.processing = false) (further : System.Run m s later s')
    (idle : ∀ t ∈ later, t.move ≠ .next ∧ ∀ auto, t.move ≠ .start auto) :
    (∀ limit, s.poller.wait m limit = (true, s.poller)) ∧
      s.poller.waitForever m = (true, s.poller) ∧ (∀ t ∈ later, t.AddsNothing) ∧
      (later.handed ++ s'.shared.queue.messages).Sublist s.shared.queue.messages := by
  have sound := run.sound (System.sound_new roster defaults world clock)
  obtain ⟨-, adds, handed⟩ := further.rests sound done idle
  refine ⟨fun limit => ?_, ?_, adds, handed⟩
  · simp [wait, show s.poller.shared.processing = false from done]
  · simp [waitForever, show s.poller.shared.processing = false from done]

theorem single_polled :
    ∃ (h : History Script.Scripts Script.Step) (s : System Script.Scripts Script.Step),
      System.Run Script.mailboxes .single h s ∧ s.stopping = none ∧
        s.shared.processing = false ∧ s.shared.queue.messages = [plainMessage "1"] := by
  have run : System.Run Script.mailboxes .single [] .single := .nil
  have run := run.cons (.start true rfl)
  have run := run.cons (.work rfl) |>.cons (.work rfl) |>.cons (.work rfl)
  have run := run.cons (.work rfl) |>.cons (.work rfl)
  exact ⟨_, _, run, rfl, rfl, rfl⟩

theorem completion_is_final_single :
    ∃ (h later : History Script.Scripts Script.Step) (s s' : System Script.Scripts Script.Step),
      System.Run Script.mailboxes .single h s ∧ s.shared.processing = false ∧
        System.Run Script.mailboxes s later s' ∧ later.handed = [plainMessage "1"] ∧
        s.poller.wait Script.mailboxes 5 = (true, s.poller) ∧ (∀ t ∈ later, t.AddsNothing) ∧
        (later.handed ++ s'.shared.queue.messages).Sublist s.shared.queue.messages := by
  obtain ⟨h, s, run, free, done, waiting⟩ := single_polled
  have further : System.Run Script.mailboxes s _ _ := .cons .nil (.getMessage free)
  obtain ⟨waits, -, rest⟩ := completion_is_final run done further (by simp)
  refine ⟨_, _, _, _, run, done, further, ?_, waits 5, rest⟩
  simp [History.handed, Transition.handed, getMessage, Queue.get?, waiting]

end MailRound.Poller
