import MailRound.Account.Roster
import MailRound.Poller.Script
import MailRound.Proofs.Poller.Delivery

namespace MailRound

namespace Script

/-- No call of an attempt takes its caller down. -/
def Step.Calm (s : Step) : Prop :=
  s.connect.panics = false ∧ s.fetch.panics = false ∧ s.mark.panics = false ∧
    s.disconnect.panics = false

instance (s : Step) : Decidable s.Calm := inferInstanceAs (Decidable (_ ∧ _ ∧ _ ∧ _))

def Calm (scripts : Scripts) : Prop := ∀ entry ∈ scripts, ∀ step ∈ entry.2, step.Calm

instance (scripts : Scripts) : Decidable (Calm scripts) :=
  inferInstanceAs (Decidable (∀ entry ∈ scripts, ∀ step ∈ entry.2, Step.Calm step))

theorem take_calm {scripts : Scripts} (calm : Calm scripts) (id : String) :
    (take scripts id).1.Calm ∧ Calm (take scripts id).2 := by
  induction scripts with
  | nil => exact ⟨⟨rfl, rfl, rfl, rfl⟩, calm⟩
  | cons entry rest ih =>
    obtain ⟨key, steps⟩ := entry
    obtain ⟨here, there⟩ := List.forall_mem_cons.1 calm
    by_cases same : key = id
    · cases steps with
      | nil =>
        simp only [take, if_pos same]
        exact ⟨⟨rfl, rfl, rfl, rfl⟩, calm⟩
      | cons step steps =>
        simp only [take, if_pos same]
        obtain ⟨first, others⟩ := List.forall_mem_cons.1 here
        exact ⟨first, List.forall_mem_cons.2 ⟨others, there⟩⟩
    · simp only [take, if_neg same]
      exact ⟨(ih there).1, List.forall_mem_cons.2 ⟨here, (ih there).2⟩⟩

theorem Stage.fate_of_calm {α : Type} {s : Stage} (calm : s.panics = false) (value : α) :
    s.fate value = .returns (match s.error with
      | some why => .error why
      | none => .ok value) := by
  unfold Stage.fate
  rw [calm]
  cases s.error <;> rfl

end Script

namespace Plain

/-- What is left of the scripts, and what was kept so far, the oldest first. -/
structure Mail where
  scripts : Script.Scripts
  kept : List Message

/-- A message is kept unless its id is blank or that of a message kept before. -/
def keepOne (kept : List Message) (m : Message) : List Message :=
  if (Text.trim m.id).isEmpty || kept.any (·.id == m.id) then kept else kept ++ [m]

def keep (kept batch : List Message) : List Message := batch.foldl keepOne kept

def fetched (step : Script.Step) : Outcome (List Message) :=
  match step.fetch.error with
  | some why => .error why
  | none => .ok step.batch

/-- What an attempt comes to: its batch, or the first error on the way to it. -/
def outcome (step : Script.Step) : Outcome (List Message) :=
  match step.createError with
  | some why => .error why
  | none =>
    match step.connect.error with
    | some why => .error why
    | none => fetched step

/-- Up to so many attempts for one account. An unknown provider ends them, any other error counts
as an attempt that finds nothing. -/
def attempts (id : String) : Nat → Mail → Mail
  | 0, x => x
  | n + 1, x =>
    let (step, scripts) := Script.take x.scripts id
    match outcome step with
    | .error (.unknownProvider _) => ⟨scripts, x.kept⟩
    | .error _ => attempts id n ⟨scripts, x.kept⟩
    | .ok batch => attempts id n ⟨scripts, keep x.kept batch⟩

/-- How many attempts an account has: what it says of its own, or else what the defaults say. -/
def limit (defaults : Polling) (a : Account) : Nat :=
  (a.polling.bind (·.maxPollCount)).getD defaults.maxPollCount

theorem effectivePolling_maxPollCount (a : Account) (defaults : Polling) :
    (a.effectivePolling defaults).maxPollCount = limit defaults a := by
  rw [Account.effectivePolling_eq, limit]

def poll (defaults : Polling) (x : Mail) (a : Account) : Mail :=
  attempts a.id (limit defaults a) x

def run (defaults : Polling) (roster : Roster) (scripts : Script.Scripts) : Mail :=
  roster.enabled.foldl (poll defaults) ⟨scripts, []⟩

/-- A bound on the steps that a worker takes for an account: five for each attempt, and one to begin
with. -/
def share (defaults : Polling) (a : Account) : Nat :=
  5 * limit defaults a + 1

/-- A bound on the steps and selections that accounts take together. -/
def cost (defaults : Polling) : List Account → Nat
  | [] => 0
  | a :: rest => share defaults a + 1 + cost defaults rest

def resume (id : String) (left : Nat) (x : Mail) : Poller.Attempt → Mail
  | .done => attempts id left x
  | .superseded => x
  | .failed (.unknownProvider _) => x
  | .failed _ => attempts id left x

def settle (id : String) (left : Nat) (x : Mail) : Outcome (List Message) → Mail
  | .error why => resume id left x (.failed why)
  | .ok batch => resume id left ⟨x.scripts, keep x.kept batch⟩ .done

theorem attempts_succ (id : String) (n : Nat) (x : Mail) : attempts id (n + 1) x =
    settle id n ⟨(Script.take x.scripts id).2, x.kept⟩ (outcome (Script.take x.scripts id).1) := by
  rw [attempts]
  cases h : outcome (Script.take x.scripts id).1 with
  | ok batch => simp only [h, settle, resume]
  | error why => cases why <;> simp only [h, settle, resume]

/-- What the plain program keeps is what the poller takes for new. -/
theorem keep_eq_fresh (batch : List Message) {kept : List Message} {d : Delivered}
    (ids : d.ids = kept.map (·.id)) : keep kept batch = kept ++ d.fresh batch := by
  -- By induction over the batch; the ids delivered stay those of the messages kept.
  induction batch generalizing kept d with
  | nil => simp [keep, Delivered.fresh]
  | cons m ms ih =>
    have seen : d.seen m.id = kept.any (·.id == m.id) := by
      rw [Delivered.seen, ids, Bool.eq_iff_iff]
      simp
    have blank : Poller.Shared.rejects m = (Text.trim m.id).isEmpty := rfl
    unfold keep at ih ⊢
    rw [List.foldl_cons, keepOne, Delivered.fresh, seen, blank, Bool.or_comm]
    split
    · exact ih ids
    · rename_i new
      have marked : (d.mark m.id).2.ids = (kept ++ [m]).map (·.id) := by
        have unseen : d.seen m.id = false := by
          rw [seen]
          simp only [Bool.or_eq_true, not_or, Bool.not_eq_true] at new
          exact new.1
        simp [Delivered.mark, unseen, ids]
      rw [ih marked, List.append_assoc]
      rfl

end Plain

end MailRound
