import MailRound.Proofs.Poller.Delivery
import Mathlib.Data.List.Basic
import Mathlib.Data.List.Induction

namespace MailRound

namespace Delivered

/-- A message that can be told apart, was not delivered before and does not occur among those that
stand before it. -/
def IsNews (d : Delivered) (before : List Message) (m : Message) : Prop :=
  Text.trim m.id ≠ "" ∧ m.id ∉ d.ids ∧ m.id ∉ before.map (·.id)

instance (d : Delivered) (before : List Message) (m : Message) : Decidable (d.IsNews before m) :=
  inferInstanceAs (Decidable (_ ∧ _ ∧ _))

/-- The messages of a batch, in its order, that are news at their place. -/
def news (d : Delivered) (batch : List Message) : List Message :=
  batch.zipIdx.filterMap fun p => if d.IsNews (batch.take p.2) p.1 then some p.1 else none

theorem news_concat (d : Delivered) (batch : List Message) (m : Message) :
    d.news (batch ++ [m]) = d.news batch ++ if d.IsNews batch m then [m] else [] := by
  unfold news
  rw [List.zipIdx_append, List.filterMap_append]
  congr 1
  · apply List.filterMap_congr
    intro p among
    have inside := (List.mem_zipIdx among).2.1
    rw [List.take_append_of_le_length (by omega)]
  · by_cases new : d.IsNews batch m <;> simp [new]

theorem fresh_append (d : Delivered) (before after : List Message) :
    d.fresh (before ++ after) = d.fresh before ++
      (d.markAll ((d.fresh before).map (·.id))).fresh after := by
  induction before generalizing d with
  | nil => simp [fresh, markAll]
  | cons m before ih =>
    by_cases skip : (d.seen m.id || Poller.Shared.rejects m) = true
    · simp only [List.cons_append, fresh, if_pos skip, ih]
    · have new : d.seen m.id = false := by
        simp only [Bool.or_eq_true, not_or, Bool.not_eq_true] at skip
        exact skip.1
      simp only [List.cons_append, fresh, if_neg skip, mark_of_not_seen new, ih, List.map_cons,
        markAll_cons]

theorem rejects_iff {m : Message} : Poller.Shared.rejects m = true ↔ Text.trim m.id = "" :=
  String.isEmpty_iff

theorem mem_markAll_fresh {d : Delivered} {batch : List Message} {id : String}
    (named : Text.trim id ≠ "") : id ∈ (d.markAll ((d.fresh batch).map (·.id))).ids ↔
      id ∈ d.ids ∨ id ∈ batch.map (·.id) := by
  induction batch generalizing d with
  | nil => simp [fresh, markAll]
  | cons m batch ih =>
    by_cases known : m.id ∈ d.ids
    · have skip : (d.seen m.id || Poller.Shared.rejects m) = true := by simp [seen, known]
      rw [fresh, if_pos skip, ih, List.map_cons, List.mem_cons]
      constructor
      · rintro (old | later)
        · exact .inl old
        · exact .inr (.inr later)
      · rintro (old | rfl | later)
        · exact .inl old
        · exact .inl known
        · exact .inr later
    · have new : d.seen m.id = false := by simp [seen, known]
      by_cases blank : Text.trim m.id = ""
      · have skip : (d.seen m.id || Poller.Shared.rejects m) = true := by
          simp [rejects_iff.2 blank]
        have other : id ≠ m.id := by
          rintro rfl
          exact named blank
        rw [fresh, if_pos skip, ih, List.map_cons, List.mem_cons, or_iff_right other]
      · have keep : ¬(d.seen m.id || Poller.Shared.rejects m) = true := by
          simp [new, rejects_iff, blank]
        rw [fresh, if_neg keep, mark_of_not_seen new, List.map_cons, ← markAll_cons, ih]
        simp [markAll, or_assoc]

/-- Going through a batch finds what is new in it. -/
theorem fresh_eq_news (d : Delivered) (batch : List Message) : d.fresh batch = d.news batch := by
  induction batch using List.reverseRecOn with
  | nil => rfl
  | append_singleton batch m ih =>
    rw [fresh_append, news_concat, ← ih]
    congr 1
    by_cases blank : Text.trim m.id = ""
    · have stale : ¬d.IsNews batch m := fun new => new.1 blank
      simp [fresh, rejects_iff.2 blank, stale]
    · have known : m.id ∈ (d.markAll ((d.fresh batch).map (·.id))).ids ↔ _ :=
        mem_markAll_fresh blank
      by_cases old : m.id ∈ d.ids ∨ m.id ∈ batch.map (·.id)
      · have stale : ¬d.IsNews batch m := fun new => old.elim new.2.1 new.2.2
        simp [fresh, seen, known.2 old, stale]
      · have new : d.IsNews batch m := ⟨blank, fun h => old (.inl h), fun h => old (.inr h)⟩
        have keep : ¬Poller.Shared.rejects m = true := fun h => blank (rejects_iff.1 h)
        simp [fresh, seen, mt known.1 old, keep, new]

end Delivered

namespace Poller.Shared

variable {ω : Type}

/-- A batch of the running cycle adds its news: they stand behind what waits in the queue, their ids
are known from then on, and they are counted, timed and, if the account asks for it, named to be
marked. Nothing else changes but the log. A batch of a cycle that is over changes nothing. -/
theorem batch_adds_its_news (s : Shared ω) (account : Account) (generation : Nat)
    (batch : List Message) :
    let news := s.delivered.news batch
    let after := (s.enqueueBatch account generation batch).1
    let outcome := (s.enqueueBatch account generation batch).2
    (s.cycle = generation →
      after.queue.messages = s.queue.messages ++ news ∧
      (∀ id, id ∈ after.delivered.ids ↔ id ∈ s.delivered.ids ∨ id ∈ news.map (·.id)) ∧
      after.queue.stats.totalMessages = s.queue.stats.totalMessages + news.length ∧
      after.queue.stats.lastMessageTime =
        (if news = [] then s.queue.stats.lastMessageTime else some s.clock) ∧
      outcome.processed = news.length ∧
      outcome.toMark = (if account.criteria.markAsRead then news.map (·.id) else []) ∧
      outcome.superseded = false ∧
      after = { s with
        queue := after.queue
        delivered := after.delivered
        log := after.log }) ∧
    (s.cycle ≠ generation → after = s ∧ outcome = ⟨0, [], true⟩) := by
  intro news after outcome
  constructor
  · intro current
    obtain ⟨log, enqueued⟩ := enqueueBatch_of_current current account batch
    rw [Delivered.fresh_eq_news] at enqueued
    have mail : after = _ := congrArg Prod.fst enqueued
    have told : outcome = _ := congrArg Prod.snd enqueued
    rw [mail, told]
    refine ⟨Queue.putAll_messages _ _ _, fun id => List.mem_append,
      Queue.putAll_totalMessages _ _ _, Queue.putAll_lastMessageTime _ _ _, rfl, rfl, rfl, rfl⟩
  · intro stale
    have nothing := enqueueBatch_of_stale stale account batch
    exact ⟨congrArg Prod.fst nothing, congrArg Prod.snd nothing⟩

/-- The third cycle of a poller that has delivered message 1. -/
def third : Shared Unit :=
  { (Poller.new ⟨[]⟩ .default () ⟨7, 0⟩ : Poller Unit Unit).shared with
    delivered := ⟨["1"]⟩
    cycle := 3 }

theorem batch_adds_its_news_third :
    let account : Account := ⟨"box", "imap", true, none, [], ⟨true, none, []⟩, none⟩
    let batch := ["1", " ", "2", "2", "3"].map fun id => Message.new id .imap
    third.cycle = 3 ∧ third.cycle ≠ 2 ∧
      (third.enqueueBatch account 3 batch).1.queue.messages.map (·.id) = ["2", "3"] ∧
      (third.enqueueBatch account 3 batch).2.toMark = ["2", "3"] ∧
      (third.enqueueBatch account 3 batch).1.queue.stats.lastMessageTime = some ⟨7, 0⟩ ∧
      third.enqueueBatch account 2 batch = (third, ⟨0, [], true⟩) := by
  intro account batch
  have two : (third.delivered.news batch).map (·.id) = ["2", "3"] := by decide +kernel
  obtain ⟨current, -⟩ := batch_adds_its_news third account 3 batch
  obtain ⟨-, stale⟩ := batch_adds_its_news third account 2 batch
  obtain ⟨messages, -, -, time, -, marks, -⟩ := current rfl
  have some : third.delivered.news batch ≠ [] := fun none => by simp [none] at two
  refine ⟨rfl, by decide, ?_, ?_, ?_, ?_⟩
  · rw [messages]
    exact two
  · rw [marks]
    exact two
  · rw [time, if_neg some]
    rfl
  · have late := stale (by decide)
    exact Prod.ext late.1 late.2

end Poller.Shared

end MailRound
