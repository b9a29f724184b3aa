import MailRound.Poller.Worker
import Mathlib.Tactic.Common

namespace MailRound

/-- The messages of a batch that are handed on: those with an id that is not blank, was not
delivered before and does not occur earlier in the batch. -/
def Delivered.fresh (d : Delivered) : List Message → List Message
  | [] => []
  | m :: ms =>
    if d.seen m.id || Poller.Shared.rejects m then d.fresh ms
    else m :: Delivered.fresh (d.mark m.id).2 ms

theorem Delivered.fresh_sublist (d : Delivered) (batch : List Message) :
    (d.fresh batch).Sublist batch := by
  induction batch generalizing d with
  | nil => exact List.Sublist.refl _
  | cons m ms ih =>
    unfold Delivered.fresh
    split
    · exact (ih d).cons m
    · exact (ih _).cons_cons m

def Delivered.markAll (d : Delivered) (ids : List String) : Delivered := ⟨d.ids ++ ids⟩

def Queue.putAll (q : Queue) (now : Calendar.Instant) (ms : List Message) : Queue :=
  ms.foldl (·.put now) q

theorem Delivered.mark_of_not_seen {d : Delivered} {id : String} (h : d.seen id = false) :
    (d.mark id).2 = d.markAll [id] := by
  simp [Delivered.mark, h, Delivered.markAll]

theorem Delivered.markAll_cons (d : Delivered) (id : String) (ids : List String) :
    (d.markAll [id]).markAll ids = d.markAll (id :: ids) := by
  simp [Delivered.markAll]

theorem Queue.putAll_messages (q : Queue) (now : Calendar.Instant) (ms : List Message) :
    (q.putAll now ms).messages = q.messages ++ ms := by
  induction ms generalizing q with
  | nil => simp [Queue.putAll]
  | cons m ms ih =>
    have h := ih (q.put now m)
    simpa [Queue.putAll, Queue.put] using h

theorem Queue.putAll_totalMessages (q : Queue) (now : Calendar.Instant) (ms : List Message) :
    (q.putAll now ms).stats.totalMessages = q.stats.totalMessages + ms.length := by
  induction ms generalizing q with
  | nil => rfl
  | cons m ms ih =>
    have h := ih (q.put now m)
    simp only [Queue.putAll, List.foldl_cons, List.length_cons] at h ⊢
    rw [h, Queue.put, Nat.add_assoc, Nat.add_comm 1]

theorem Queue.putAll_lastMessageTime (q : Queue) (now : Calendar.Instant) (ms : List Message) :
    (q.putAll now ms).stats.lastMessageTime =
      if ms = [] then q.stats.lastMessageTime else some now := by
  induction ms generalizing q with
  | nil => rfl
  | cons m ms ih =>
    have h := ih (q.put now m)
    rw [if_neg (List.cons_ne_nil m ms)]
    simp only [Queue.putAll, List.foldl_cons] at h ⊢
    rw [h]
    split
    · rfl
    · rfl

namespace Poller.Shared

variable {ω : Type}

/-- One message, apart from the log: it is passed over, or delivered. -/
theorem deliver_eq (account : Account) (s : Shared ω) (e : Enqueued) (m : Message) :
    ∃ log, deliver account (s, e) m =
      if s.delivered.seen m.id || rejects m then ({ s with log := log }, e)
      else
        ({ s with
            delivered := s.delivered.markAll [m.id]
            queue := s.queue.put s.clock m
            log := log },
          { e with
            processed := e.processed + 1
            toMark := e.toMark ++ if account.criteria.markAsRead then [m.id] else [] }) := by
  by_cases seen : s.delivered.seen m.id = true
  · exact ⟨_, by simp only [deliver, seen, if_true, Bool.true_or]; rfl⟩
  · by_cases blank : rejects m = true
    · exact ⟨_, by simp only [deliver, seen, blank, if_true, if_false, Bool.or_true,
        Bool.false_eq_true]; rfl⟩
    · have new : s.delivered.seen m.id = false := by simpa using seen
      refine ⟨(s.announce account m).log, ?_⟩
      have kept : s.announce account m = { s with log := (s.announce account m).log } := by
        unfold announce
        dsimp only
        split <;> rfl
      simp only [deliver, new, blank, if_false, Bool.or_self, Bool.false_eq_true]
      rw [kept]
      simp only [Delivered.mark_of_not_seen new]
      split <;> simp

theorem foldl_deliver (account : Account) (batch : List Message) (s : Shared ω) (e : Enqueued) :
    ∃ log, batch.foldl (deliver account) (s, e) =
      ({ s with
          delivered := s.delivered.markAll ((s.delivered.fresh batch).map (·.id))
          queue := s.queue.putAll s.clock (s.delivered.fresh batch)
          log := log },
        { e with
          processed := e.processed + (s.delivered.fresh batch).length
          toMark := e.toMark ++
            if account.criteria.markAsRead then (s.delivered.fresh batch).map (·.id)
            else [] }) := by
  -- What one message leaves behind decides about the later ones, so the state is generalized.
  induction batch generalizing s e with
  | nil => exact ⟨s.log, by simp [Delivered.fresh, Delivered.markAll, Queue.putAll]⟩
  | cons m ms ih =>
    obtain ⟨log, first⟩ := deliver_eq account s e m
    rw [List.foldl_cons, first]
    by_cases skip : (s.delivered.seen m.id || rejects m) = true
    · obtain ⟨log', rest⟩ := ih { s with log := log } e
      refine ⟨log', ?_⟩
      rw [if_pos skip, rest]
      simp only [Delivered.fresh, if_pos skip]
    · have new : s.delivered.seen m.id = false := by
        simpa using (Bool.or_eq_false_iff.1 (Bool.not_eq_true _ ▸ skip)).1
      rw [if_neg skip]
      obtain ⟨log', rest⟩ := ih _ _
      refine ⟨log', rest.trans ?_⟩
      simp only [Delivered.fresh, if_neg skip, Delivered.mark_of_not_seen new, List.map_cons,
        Delivered.markAll_cons, List.length_cons, Queue.putAll, List.foldl_cons]
      split <;> simp <;> omega

/-- A batch of the running cycle is delivered as a whole. -/
theorem enqueueBatch_of_current {s : Shared ω} {generation : Nat} (h : s.cycle = generation)
    (account : Account) (batch : List Message) :
    ∃ log, s.enqueueBatch account generation batch =
      ({ s with
          delivered := s.delivered.markAll ((s.delivered.fresh batch).map (·.id))
          queue := s.queue.putAll s.clock (s.delivered.fresh batch)
          log := log },
        ⟨(s.delivered.fresh batch).length,
          if account.criteria.markAsRead then (s.delivered.fresh batch).map (·.id) else [],
          false⟩) := by
  obtain ⟨log, all⟩ := foldl_deliver account batch s ⟨0, [], false⟩
  refine ⟨log, ?_⟩
  rw [enqueueBatch, if_pos h, all]
  simp

theorem enqueueBatch_of_stale {s : Shared ω} {generation : Nat} (h : s.cycle ≠ generation)
    (account : Account) (batch : List Message) :
    s.enqueueBatch account generation batch = (s, ⟨0, [], true⟩) := if_neg h

theorem enqueueBatch_keeps (s : Shared ω) (account : Account) (generation : Nat)
    (batch : List Message) : ∃ delivered queue log, (s.enqueueBatch account generation batch).1 =
      { s with delivered := delivered, queue := queue, log := log } := by
  by_cases current : s.cycle = generation
  · obtain ⟨log, enqueued⟩ := enqueueBatch_of_current current account batch
    exact ⟨_, _, log, by rw [enqueued]⟩
  · exact ⟨_, _, _, by rw [enqueueBatch_of_stale current]⟩

end Poller.Shared

end MailRound
