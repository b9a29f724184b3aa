import MailRound.Proofs.Crowd.Run
import MailRound.Proofs.Poller.Leg
import Mathlib.Data.List.Nodup

namespace MailRound.Poller

variable {ω φ : Type} {m : Mailboxes ω φ}

def present (p : Poller ω φ) : List (Worker φ) := p.worker.toList ++ p.leaving

/-- A worker by its number and its place in its work. -/
def Worker.badge (w : Worker φ) : Nat × Phase φ := (w.serial, w.phase)

def badges (p : Poller ω φ) : List (Nat × Phase φ) := p.present.map Worker.badge

theorem badges_of_worker {p p' : Poller ω φ} {f : Worker φ → Worker φ}
    (worker : p'.worker = p.worker.map f) (same : ∀ w, (f w).badge = w.badge)
    (leaving : p'.leaving = p.leaving) : p'.badges = p.badges := by
  rw [badges, badges, present, present, worker, leaving]
  cases p.worker with
  | none => rfl
  | some w => simp [same]

theorem Choice.badges {p p' : Poller ω φ} {seen : Option Nat} (choice : Choice p seen p') :
    p'.badges = p.badges ∧ p'.spawned = p.spawned := by
  cases choice with
  | exhausted log past => exact ⟨rfl, rfl⟩
  | deferred log unseen => exact ⟨rfl, rfl⟩
  | signalled log w installed same =>
    refine ⟨badges_of_worker (f := fun w => { w with signal := true }) ?_ (fun _ => rfl) rfl, rfl⟩
    simp [installed]
  | missed log serial saw gone => exact ⟨rfl, rfl⟩

theorem Manning.badges {p p' : Poller ω φ} {auto : Bool} (manning : Manning p auto p') :
    p'.badges.Sublist ((p.spawned, .fresh) :: p.badges) ∧ p'.spawned = p.spawned + 1 := by
  have others : (p.leaving.map Worker.badge).Sublist p.badges := by
    rw [Poller.badges, present, List.map_append]
    exact List.sublist_append_right _ _
  cases manning <;> exact ⟨others.cons_cons _, rfl⟩

/-- A worker that makes a step keeps its number, and no other worker moves. -/
theorem Stepped.badges {p p' : Poller ω φ} {w : Worker φ} {r : Worker.Step ω φ}
    (place : Stepped p w r p') (serial : r.2.serial = w.serial) :
    w ∈ p.present ∧ p'.spawned = p.spawned ∧ ∃ before after,
      p.badges = before ++ (w.serial, w.phase) :: after ∧
        p'.badges = before ++ (w.serial, r.2.phase) :: after := by
  cases place with
  | installed here =>
    refine ⟨by simp [present, here], rfl, [], p.leaving.map Worker.badge, ?_, ?_⟩
    · simp [Poller.badges, present, here, Worker.badge]
    · simp [Poller.badges, present, Worker.badge, serial]
  | leaving before after there =>
    refine ⟨by simp [present, there], rfl, (p.worker.toList ++ before).map Worker.badge,
      after.map Worker.badge, ?_, ?_⟩
    · simp [Poller.badges, present, there, Worker.badge]
    · simp [Poller.badges, present, Worker.badge, serial]

namespace Crowd

/-- What an entry does to the workers. -/
inductive Entry.Crew (m : Mailboxes ω φ) (t : Entry ω φ) : Prop
  | works (w : Worker φ) (r : Worker.Step ω φ) (act : t.act = .work w.serial)
    (goes : w.step m t.before.shared = some r) (shared : t.after.shared = r.1)
    (member : w ∈ t.before.poller.present) (before after : List (Nat × Phase φ))
    (was : t.before.poller.badges = before ++ (w.serial, w.phase) :: after)
    (is : t.after.poller.badges = before ++ (w.serial, r.2.phase) :: after)
    (spawned : t.after.poller.spawned = t.before.poller.spawned)
  | leaves (other : ∀ serial, t.act ≠ .work serial)
    (badges : t.after.poller.badges.Sublist t.before.poller.badges)
    (spawned : t.after.poller.spawned = t.before.poller.spawned)
  | adds (other : ∀ serial, t.act ≠ .work serial)
    (badges : t.after.poller.badges.Sublist
      ((t.before.poller.spawned, .fresh) :: t.before.poller.badges))
    (spawned : t.after.poller.spawned = t.before.poller.spawned + 1)

theorem Step.crew {s s' : Crowd ω φ} {act : Act} (step : Step m s act s') :
    Entry.Crew m ⟨act, s, s'⟩ := by
  have same (act : Act) (other : ∀ serial, act ≠ .work serial) (s' : Crowd ω φ)
      (badges : s'.poller.badges = s.poller.badges)
      (spawned : s'.poller.spawned = s.poller.spawned) : Entry.Crew m ⟨act, s, s'⟩ :=
    .leaves other (badges ▸ .refl _) spawned
  cases step with
  | next => exact same _ (by simp) _ rfl rfl
  | look before after here => exact same _ (by simp) _ rfl rfl
  | select seen before after here =>
    obtain ⟨badges, spawned⟩ := (selectNext_choice s.poller seen).badges
    exact same _ (by simp) _ badges spawned
  | startRunning auto live =>
    refine same _ (by simp) _ ?_ ?_
    · change (s.poller.start auto).badges = s.poller.badges
      rw [start_of_live live]
      rfl
    · change (s.poller.start auto).spawned = s.poller.spawned
      rw [start_of_live live]
      rfl
  | start auto dead =>
    obtain ⟨badges, spawned⟩ := (installWorker_manning s.poller auto).badges
    exact .adds (by simp) badges spawned
  | reset => exact same _ (by simp) _ rfl rfl
  | forget seen before after here =>
    refine same _ (by simp) _ (badges_of_worker rfl (fun w => ?_) rfl) rfl
    split <;> rfl
  | stopIdle absent => exact same _ (by simp) _ rfl rfl
  | stop w found =>
    rw [takeWorker_eq found]
    refine same _ (by simp) _ ?_ rfl
    simp [badges, present, found, Worker.badge]
  | retire serial before after here => exact same _ (by simp) _ rfl rfl
  | release serial deadline before after here ended =>
    obtain ⟨status, log, h⟩ := release_eq s.poller serial
    rw [h]
    refine .leaves (by simp) ?_ rfl
    exact (((List.filter_sublist).append_left _).map _)
  | getMessage => exact same _ (by simp) _ rfl rfl
  | getLastMessage => exact same _ (by simp) _ rfl rfl
  | waitEnds done => exact same _ (by simp) _ rfl rfl
  | waitTimesOut limit busy => exact same _ (by simp) _ rfl rfl
  | work w r goes place =>
    obtain ⟨made, put, effect, turn⟩ := Worker.step_turn goes
    obtain ⟨member, spawned, before, after, was, is⟩ := place.badges turn.orders.1
    exact .works w r rfl goes place.shared_eq member before after was is spawned
  | pass ms => exact same _ (by simp) _ rfl rfl
  | setClock t => exact same _ (by simp) _ rfl rfl
  | tell event => exact same _ (by simp) _ rfl rfl

structure Numbered (s : Crowd ω φ) : Prop where
  distinct : (s.poller.badges.map Prod.fst).Nodup
  below : ∀ b ∈ s.poller.badges, b.1 < s.poller.spawned

theorem Numbered.crew {t : Entry ω φ} (h : Numbered t.before) (crew : t.Crew m) :
    Numbered t.after := by
  cases crew with
  | works w r act goes shared member before after was is spawned =>
    have serials : t.after.poller.badges.map Prod.fst = t.before.poller.badges.map Prod.fst := by
      simp [was, is]
    refine ⟨serials ▸ h.distinct, fun b member => ?_⟩
    obtain ⟨b', member', same⟩ := List.mem_map.1 (serials ▸ List.mem_map_of_mem member)
    rw [spawned, ← same]
    exact h.below b' member'
  | leaves other badges spawned =>
    refine ⟨h.distinct.sublist (badges.map _), fun b member => ?_⟩
    rw [spawned]
    exact h.below b (badges.subset member)
  | adds other badges spawned =>
    refine ⟨List.Nodup.sublist (badges.map _) ?_, fun b member => ?_⟩
    · refine List.nodup_cons.2 ⟨fun taken => ?_, h.distinct⟩
      obtain ⟨b, member, same⟩ := List.mem_map.1 taken
      exact absurd same (Nat.ne_of_lt (h.below b member))
    · rw [spawned]
      obtain rfl | old := List.mem_cons.1 (badges.subset member)
      · exact Nat.lt_succ_self _
      · exact Nat.lt_succ_of_lt (h.below b old)

theorem Run.numbered {roster : Roster} {defaults : Polling} {world : ω} {clock : Calendar.Instant}
    {j : Journal ω φ} {s : Crowd ω φ} (run : Run m (.new roster defaults world clock) j s) :
    Numbered s := by
  induction run with
  | nil => exact ⟨List.nodup_nil, fun _ member => absurd member List.not_mem_nil⟩
  | cons past step ih => exact ih.crew step.crew

theorem Numbered.same {s : Crowd ω φ} (h : Numbered s) {v w : Worker φ}
    (hv : v ∈ s.poller.present) (hw : w ∈ s.poller.present) (serial : v.serial = w.serial) :
    v = w := by
  have distinct : (s.poller.present.map (·.serial)).Nodup := by
    simpa [badges, Worker.badge, Function.comp_def] using h.distinct
  exact List.inj_on_of_nodup_map distinct hv hw serial

end Crowd

end MailRound.Poller
