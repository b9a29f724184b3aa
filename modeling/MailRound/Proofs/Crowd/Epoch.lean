import MailRound.Proofs.Crowd.Run
import MailRound.Proofs.Poller.Completion
import MailRound.Proofs.Poller.Leg
import Mathlib.Data.List.Nodup

namespace MailRound

theorem Delivered.nodup_markAll_fresh {d : Delivered} (distinct : d.ids.Nodup)
    (batch : List Message) : (d.markAll ((d.fresh batch).map (·.id))).ids.Nodup := by
  induction batch generalizing d with
  | nil => simpa [Delivered.fresh, Delivered.markAll] using distinct
  | cons m ms ih =>
    by_cases skip : (d.seen m.id || Poller.Shared.rejects m) = true
    · simpa only [Delivered.fresh, if_pos skip] using ih distinct
    · obtain ⟨new, -⟩ : d.seen m.id = false ∧ Poller.Shared.rejects m = false := by
        simpa using skip
      have more : (d.markAll [m.id]).ids.Nodup := by
        refine List.nodup_append.2 ⟨distinct, List.nodup_singleton _, ?_⟩
        rintro x old y added rfl
        rw [List.mem_singleton.1 added] at old
        simp [Delivered.seen, old] at new
      simpa only [Delivered.fresh, if_neg skip, Delivered.mark_of_not_seen new, List.map_cons,
        Delivered.markAll_cons] using ih more

theorem Delivered.rejects_of_mem_fresh {d : Delivered} {batch : List Message} {x : Message}
    (h : x ∈ d.fresh batch) : Poller.Shared.rejects x = false := by
  induction batch generalizing d with
  | nil => cases h
  | cons m ms ih =>
    by_cases skip : (d.seen m.id || Poller.Shared.rejects m) = true
    · rw [Delivered.fresh, if_pos skip] at h
      exact ih h
    · rw [Delivered.fresh, if_neg skip] at h
      obtain rfl | later := List.mem_cons.1 h
      · simpa using (Bool.or_eq_false_iff.1 (Bool.not_eq_true _ ▸ skip)).2
      · exact ih later

namespace Poller

variable {ω φ : Type} {m : Mailboxes ω φ}

/-- A step of a worker puts what is new in some batch. -/
theorem Worker.Leg.put_fresh {s : Shared ω} {w : Worker φ} {made : List Call}
    {put : List Message} {after : Phase φ} (leg : Leg m s w made put after) :
    ∃ batch, put = s.delivered.fresh batch := by
  cases leg with
  | takes c f phase due batch back current unmarked flight => exact ⟨batch, rfl⟩
  | marks c f phase due batch back current asked some flight e => exact ⟨batch, rfl⟩
  | _ => exact ⟨[], rfl⟩

/-- What no caller touches apart from a reset; messages may be taken from the queue. -/
structure Shared.Holds (s s' : Shared ω) : Prop where
  calls : s'.calls = s.calls
  delivered : s'.delivered = s.delivered
  stats : s'.queue.stats = s.queue.stats
  messages : s'.queue.messages.Sublist s.queue.messages

theorem Choice.holds {p p' : Poller ω φ} {seen : Option Nat} (choice : Choice p seen p') :
    p.shared.Holds p'.shared := by
  cases choice <;> exact ⟨rfl, rfl, rfl, List.nil_sublist _⟩

theorem Manning.holds {p p' : Poller ω φ} {auto : Bool} (manning : Manning p auto p') :
    p.shared.Holds p'.shared := by
  cases manning <;> exact ⟨rfl, rfl, rfl, .refl _⟩

namespace Crowd

/-- What an entry does to the mail. -/
inductive Entry.Mail (m : Mailboxes ω φ) (t : Entry ω φ) : Prop
  | works (w : Worker φ) (r : Worker.Step ω φ) (act : t.act = .work w.serial)
    (goes : w.step m t.before.shared = some r) (shared : t.after.shared = r.1)
  | forgets (act : t.forgets = true) (quiet : t.puts = []) (uncalled : t.calls = [])
    (delivered : t.after.shared.delivered = .empty)
    (stats : t.after.shared.queue.stats = t.before.shared.queue.stats)
    (queue : t.after.shared.queue.messages = [])
  /-- Some messages are handed out, and some may be dropped. -/
  | hands (act : t.forgets = false) (quiet : t.puts = [])
    (holds : t.before.shared.Holds t.after.shared)
    (handed : (t.handed ++ t.after.shared.queue.messages).Sublist t.before.shared.queue.messages)

theorem Entry.Mail.keeps {t : Entry ω φ} (act : t.forgets = false) (quiet : t.puts = [])
    (unhanded : t.handed = []) (holds : t.before.shared.Holds t.after.shared) : t.Mail m :=
  .hands act quiet holds (by simpa [unhanded] using holds.messages)

/-- Only workers put messages and make calls. -/
theorem Entry.Mail.quiet {t : Entry ω φ} (mail : t.Mail m)
    (other : ∀ serial, t.act ≠ .work serial) : t.puts = [] ∧ t.calls = [] := by
  cases mail with
  | works w r act goes shared => exact absurd act (other w.serial)
  | forgets act quiet uncalled delivered stats queue => exact ⟨quiet, uncalled⟩
  | hands act quiet holds handed => exact ⟨quiet, by simp [Entry.calls, holds.calls]⟩

theorem Step.mail {s s' : Crowd ω φ} {act : Act} (step : Step m s act s') :
    Entry.Mail m ⟨act, s, s'⟩ := by
  have told {sh : Shared ω} (calls : sh.calls = s.shared.calls)
      (delivered : sh.delivered = s.shared.delivered) (queue : sh.queue = s.shared.queue) :
      s.shared.Holds sh :=
    ⟨calls, delivered, by rw [queue], by rw [queue]⟩
  cases step with
  | next => exact .keeps rfl rfl rfl (told rfl rfl rfl)
  | look before after here => exact .keeps rfl rfl rfl (told rfl rfl rfl)
  | select seen before after here =>
    exact .keeps rfl rfl rfl (selectNext_choice s.poller seen).holds
  | startRunning auto live =>
    refine .keeps rfl rfl rfl ?_
    change s.shared.Holds (s.poller.start auto).shared
    rw [start_of_live live]
    exact told rfl rfl rfl
  | start auto dead => exact .keeps rfl rfl rfl (installWorker_manning s.poller auto).holds
  | reset => exact .keeps rfl rfl rfl (told rfl rfl rfl)
  | forget seen before after here =>
    exact .forgets rfl rfl List.drop_length rfl rfl rfl
  | stopIdle absent => exact .keeps rfl rfl rfl (told rfl rfl rfl)
  | stop w found =>
    refine .keeps rfl rfl rfl ?_
    rw [takeWorker_eq found]
    exact told rfl rfl rfl
  | retire serial before after here => exact .keeps rfl rfl rfl (told rfl rfl rfl)
  | release serial deadline before after here ended =>
    obtain ⟨status, log, h⟩ := release_eq s.poller serial
    refine .keeps rfl rfl rfl ?_
    simp only [h]
    exact told rfl rfl rfl
  | getMessage =>
    have rest := System.get?_sublist s.shared.queue
    have stats : s.shared.queue.get?.2.stats = s.shared.queue.stats := by
      unfold Queue.get?
      split <;> rfl
    exact .hands rfl rfl ⟨rfl, rfl, stats, (List.sublist_append_right _ _).trans rest⟩ rest
  | getLastMessage =>
    have rest := System.takeLast?_sublist s.shared.queue
    exact .hands rfl rfl ⟨rfl, rfl, rfl, List.nil_sublist _⟩ rest
  | waitEnds done => exact .keeps rfl rfl rfl (told rfl rfl rfl)
  | waitTimesOut limit busy => exact .keeps rfl rfl rfl (told rfl rfl rfl)
  | work w r goes place => exact .works w r rfl goes place.shared_eq
  | pass ms => exact .keeps rfl rfl rfl (told rfl rfl rfl)
  | setClock t => exact .keeps rfl rfl rfl (told rfl rfl rfl)
  | tell event => exact .keeps rfl rfl rfl (told rfl rfl rfl)

/-- What the journal says about the mail. -/
structure Counted (j : Journal ω φ) (s : Crowd ω φ) : Prop where
  ids : s.shared.delivered.ids = j.epoch.puts.map (·.id)
  distinct : s.shared.delivered.ids.Nodup
  named : ∀ x ∈ j.puts, Shared.rejects x = false
  /-- Messages are handed out in the order in which they were put, and none of them again. -/
  waiting : (j.epoch.handed ++ s.shared.queue.messages).Sublist j.epoch.puts
  total : s.shared.queue.stats.totalMessages = j.puts.length

theorem Counted.works {j : Journal ω φ} {t : Entry ω φ} (h : Counted j t.before) {w : Worker φ}
    {r : Worker.Step ω φ} (act : t.act = .work w.serial) (goes : w.step m t.before.shared = some r)
    (shared : t.after.shared = r.1) : Counted (t :: j) t.after := by
  obtain ⟨made, put, effect, leg⟩ := Worker.step_leg goes
  obtain ⟨batch, rfl⟩ := leg.put_fresh
  rw [← shared] at effect
  have puts := Entry.puts_of_effect act effect
  have remembers : t.forgets = false := by simp [Entry.forgets, act]
  have unhanded : t.handed = [] := by simp [Entry.handed, act]
  have added : t.after.shared.delivered.ids =
      t.before.shared.delivered.ids ++ t.puts.map (·.id) := by
    rw [effect.delivered, puts, Delivered.markAll]
  refine ⟨?_, ?_, ?_, ?_, ?_⟩
  · rw [added, Journal.epoch_cons remembers, Journal.puts_cons, List.map_append, h.ids]
  · rw [effect.delivered]
    exact Delivered.nodup_markAll_fresh h.distinct batch
  · intro x member
    obtain old | new := List.mem_append.1 (Journal.puts_cons t j ▸ member)
    · exact h.named x old
    · exact Delivered.rejects_of_mem_fresh (puts ▸ new)
  · rw [Journal.epoch_cons remembers, Journal.puts_cons, Journal.handed_cons, unhanded,
      effect.queue, Queue.putAll_messages, puts, List.append_nil, ← List.append_assoc]
    exact h.waiting.append_right _
  · rw [effect.queue, Queue.putAll_totalMessages, h.total, Journal.puts_cons, List.length_append,
      puts]

theorem Counted.forgets {j : Journal ω φ} {t : Entry ω φ} (h : Counted j t.before)
    (act : t.forgets = true) (quiet : t.puts = [])
    (delivered : t.after.shared.delivered = .empty)
    (stats : t.after.shared.queue.stats = t.before.shared.queue.stats)
    (queue : t.after.shared.queue.messages = []) : Counted (t :: j) t.after := by
  refine ⟨?_, ?_, ?_, ?_, ?_⟩
  · rw [delivered, Journal.epoch_cons_of_forgets act]
    rfl
  · rw [delivered]
    exact List.nodup_nil
  · simpa [quiet] using h.named
  · rw [Journal.epoch_cons_of_forgets act, queue]
    exact .refl _
  · rw [stats, Journal.puts_cons, quiet, List.append_nil]
    exact h.total

theorem Counted.hands {j : Journal ω φ} {t : Entry ω φ} (h : Counted j t.before)
    (act : t.forgets = false) (quiet : t.puts = []) (holds : t.before.shared.Holds t.after.shared)
    (handed : (t.handed ++ t.after.shared.queue.messages).Sublist
      t.before.shared.queue.messages) : Counted (t :: j) t.after := by
  have epoch : (Journal.epoch (t :: j)).puts = j.epoch.puts := by
    rw [Journal.epoch_cons act, Journal.puts_cons, quiet, List.append_nil]
  refine ⟨?_, ?_, ?_, ?_, ?_⟩
  · rw [holds.delivered, epoch]
    exact h.ids
  · rw [holds.delivered]
    exact h.distinct
  · simpa [quiet] using h.named
  · rw [epoch, Journal.epoch_cons act, Journal.handed_cons, List.append_assoc]
    exact (handed.append_left _).trans h.waiting
  · rw [holds.stats, Journal.puts_cons, quiet, List.append_nil]
    exact h.total

theorem Run.counted {roster : Roster} {defaults : Polling} {world : ω} {clock : Calendar.Instant}
    {j : Journal ω φ} {s : Crowd ω φ} (run : Run m (.new roster defaults world clock) j s) :
    Counted j s := by
  induction run with
  | nil => exact ⟨rfl, List.nodup_nil, fun _ member => absurd member List.not_mem_nil, .refl _, rfl⟩
  | cons past step ih =>
    cases step.mail with
    | works w r act goes shared => exact ih.works act goes shared
    | forgets act quiet uncalled delivered stats queue =>
      exact ih.forgets act quiet delivered stats queue
    | hands act quiet holds handed => exact ih.hands act quiet holds handed

end Crowd

/-- In every state that a crowd can bring a poller to, the delivered ids are those of the messages
put since the last reset, each once and none of them blank. So no id is handed out twice in an
epoch, and the counter tells how many messages were ever put. -/
theorem delivered_once_in_epoch {roster : Roster} {defaults : Polling} {world : ω}
    {clock : Calendar.Instant} {j : Crowd.Journal ω φ} {s : Crowd ω φ}
    (run : Crowd.Run m (.new roster defaults world clock) j s) :
    s.shared.delivered.ids = j.epoch.puts.map (·.id) ∧
      (j.epoch.puts.map (·.id)).Nodup ∧
      (∀ x ∈ j.puts, Text.trim x.id ≠ "") ∧
      (j.epoch.handed.map (·.id)).Nodup ∧
      s.shared.queue.stats.totalMessages = j.puts.length := by
  have counted := run.counted
  have distinct : (j.epoch.puts.map (·.id)).Nodup := counted.ids ▸ counted.distinct
  refine ⟨counted.ids, distinct, ?_, ?_, counted.total⟩
  · intro x put blank
    have named := counted.named x put
    rw [Shared.rejects, blank] at named
    exact absurd named (by decide)
  · have handed : j.epoch.handed.Sublist j.epoch.puts :=
      (List.sublist_append_left _ _).trans counted.waiting
    exact distinct.sublist (handed.map _)

/-- A poller with one account, whose attempts find a message again and again. -/
def Crowd.repeating : Crowd Script.Scripts Script.Step :=
  .new ⟨[⟨"box", "imap", true, none, [], ⟨true, none, []⟩, none⟩]⟩ ⟨2, 0, 10⟩
    [("box", [{ Script.Step.empty with
        batch := [plainMessage "1", plainMessage " ", plainMessage "1"] },
      { Script.Step.empty with batch := [plainMessage "1", plainMessage "2"] },
      { Script.Step.empty with batch := [plainMessage "1"] }])] ⟨0, 0⟩

/-- Message 1 is put and handed out; the second attempt finds it again and puts message 2. A second
caller resets the poller, and in the new epoch message 1 is delivered once more. -/
theorem delivered_once_in_epoch_repeating :
    ∃ (j : Crowd.Journal Script.Scripts Script.Step) (s : Crowd Script.Scripts Script.Step),
      Crowd.Run Script.mailboxes .repeating j s ∧
        j.puts.map (·.id) = ["1", "2", "1"] ∧ j.handed.map (·.id) = ["1", "1"] ∧
        s.shared.delivered.ids = ["1"] ∧ (j.epoch.handed.map (·.id)).Nodup ∧
        s.shared.queue.stats.totalMessages = 3 := by
  obtain ⟨j, s, run, puts, handed, epoch⟩ :
      ∃ (j : Crowd.Journal Script.Scripts Script.Step) (s : Crowd Script.Scripts Script.Step),
        Crowd.Run Script.mailboxes .repeating j s ∧ j.puts.map (·.id) = ["1", "2", "1"] ∧
          j.handed.map (·.id) = ["1", "1"] ∧ j.epoch.puts.map (·.id) = ["1"] := by
    have run : Crowd.Run Script.mailboxes .repeating [] .repeating := .nil
    have run := run.cons (.start true rfl) |>.cons (.look [] [] rfl) |>.cons (.select _ [] [] rfl)
    have run := run.cons (.worked rfl rfl) |>.cons (.worked rfl rfl) |>.cons (.worked rfl rfl)
    have run := run.cons (.worked rfl rfl) |>.cons .getMessage |>.cons .reset
    have run := run.cons (.worked rfl rfl) |>.cons (.worked rfl rfl) |>.cons (.worked rfl rfl)
    have run := run.cons (.worked rfl rfl) |>.cons (.worked rfl rfl)
    have run := run.cons (.forget _ [] [] rfl) |>.cons .next
    have run := run.cons (.worked rfl rfl) |>.cons (.select _ [] [] rfl) |>.cons (.worked rfl rfl)
    have run := run.cons (.worked rfl rfl) |>.cons (.worked rfl rfl) |>.cons (.worked rfl rfl)
    exact ⟨_, _, run.cons .getLastMessage, by decide +kernel, by decide +kernel, by decide +kernel⟩
  obtain ⟨ids, -, -, distinct, total⟩ := delivered_once_in_epoch run
  refine ⟨j, s, run, puts, handed, ids.trans epoch, distinct, ?_⟩
  rw [total, ← List.length_map (·.id), puts]
  rfl

end Poller

end MailRound
