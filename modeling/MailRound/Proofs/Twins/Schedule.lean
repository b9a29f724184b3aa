import MailRound.Proofs.Twins.Timeline

namespace MailRound.Poller

variable {ω φ : Type}

/-- What a transition shows: its move with what it answers, the calls to mailboxes that are made, and
what can be read after it. -/
structure Sight where
  move : Move
  returned? : Option Bool
  handed : List Message
  calls : List Call
  /-- The enabled accounts, and which of them is the current one. -/
  cursor : Cursor
  processing : Bool
  status : Status

namespace Transition

variable (t : Transition ω φ)

def sight : Sight :=
  ⟨t.move, t.returned?, t.handed, t.calls, t.after.shared.cursor, t.after.shared.processing,
    t.after.shared.status⟩

/-- A worker that has just been spawned wakes up, which nobody can tell. -/
def rouses : Bool :=
  match t.move with
  | .work => t.before.poller.active?.any (·.isFresh)
  | _ => false

end Transition

def History.sights (h : History ω φ) : List Sight := (h.filter (!·.rouses)).map (·.sight)

@[simp] theorem sights_nil : History.sights ([] : History ω φ) = [] := rfl

theorem sights_append (later h : History ω φ) :
    History.sights (later ++ h) = later.sights ++ h.sights := by
  simp [History.sights]

theorem sights_cons_of_seen {t : Transition ω φ} (seen : t.rouses = false) (h : History ω φ) :
    History.sights (t :: h) = t.sight :: h.sights := by
  simp [History.sights, seen]

theorem sights_of_rouses {s r : System ω φ} (fresh : s.poller.active?.any (·.isFresh) = true) :
    History.sights [⟨.work, s, r⟩] = [] := by
  simp [History.sights, Transition.rouses, fresh]

/-- What a caller does at once, in whatever state. -/
def Move.call? : Move → Option (Poller ω φ → Poller ω φ)
  | .start auto => some (·.start auto)
  | .next => some (·.next.2)
  | .reset => some (·.reset)
  | .getMessage => some (·.getMessage.2)
  | .getLastMessage => some (·.getLastMessage.2)
  | _ => none

def Move.event? : Move → Option (Shared ω → Shared ω)
  | .pass ms => some fun s => { s with now := s.now + ms }
  | .setClock t => some fun s => { s with clock := t }
  | .tell event => some fun s => { s with log := s.log ++ [event] }
  | _ => none

namespace System

/-- The same poller, and the same stop if one waits, at the distance. -/
structure Twins (d : Offset) (s s' : System ω φ) : Prop where
  poller : s.poller.Twins d s'.poller
  stopping : s'.stopping = s.stopping.map fun (serial, deadline) =>
    (d.serial + serial, d.now + deadline)

variable {d : Offset} {m : Mailboxes ω φ} {s s' r r' : System ω φ} {move : Move}

theorem Twins.free (twins : s.Twins d s') : s'.stopping = none ↔ s.stopping = none := by
  rw [twins.stopping, Option.map_eq_none_iff]

theorem Twins.of_free {p p' : Poller ω φ} (twins : p.Twins d p') :
    Twins d ⟨p, none⟩ ⟨p', none⟩ :=
  ⟨twins, rfl⟩

/-- A move of the same kind shows the same at the distance. -/
theorem Twins.sight (before : s.Twins d s') (after : r.Twins d r') (move : Move) :
    Transition.sight ⟨move, s', r'⟩ = Transition.sight ⟨move, s, r⟩ := by
  have returned : Transition.returned? ⟨move, s', r'⟩ = Transition.returned? ⟨move, s, r⟩ := by
    cases move with
    | next => exact congrArg some before.poller.next.1
    | start auto =>
      have selects : Transition.selects ⟨.start auto, s', r'⟩ =
          Transition.selects ⟨.start auto, s, r⟩ :=
        congrArg (auto && !·) before.poller.hasLiveWorker
      dsimp only [Transition.returned?]
      rw [selects, (before.poller.installWorker true).next.1]
    | _ => rfl
  have handed : Transition.handed ⟨move, s', r'⟩ = Transition.handed ⟨move, s, r⟩ := by
    cases move with
    | getMessage => exact congrArg Option.toList before.poller.getMessage.1
    | getLastMessage => exact congrArg Option.toList before.poller.getLastMessage.1
    | _ => rfl
  have calls : Transition.calls ⟨move, s', r'⟩ = Transition.calls ⟨move, s, r⟩ :=
    before.poller.made after.poller
  simp only [Transition.sight, returned, handed, calls, System.shared, after.poller.cursor,
    after.poller.processing, after.poller.status]

theorem canRelease_iff {serial deadline : Nat} : s.CanRelease serial deadline ↔
    hasLeft serial s.poller = true ∨ deadline ≤ s.shared.now := by
  refine or_congr_left ?_
  simp only [hasLeft, List.all_eq_true, Bool.or_eq_true, decide_eq_true_eq]
  exact forall₂_congr fun w among => by tauto

theorem Twins.canRelease (twins : s.Twins d s') (serial deadline : Nat) :
    s'.CanRelease (d.serial + serial) (d.now + deadline) ↔ s.CanRelease serial deadline := by
  have now : s'.shared.now = d.now + s.shared.now := twins.poller.now
  rw [canRelease_iff, canRelease_iff, hasLeft_twins twins.poller, now, Nat.add_le_add_iff_left]

def Matched (m : Mailboxes ω φ) (d : Offset) (move : Move) (s s' : System ω φ) : Prop :=
  (∀ r, Step m s move r → ∃ r', Step m s' move r' ∧ r.Twins d r') ∧
    ∀ r', Step m s' move r' → ∃ r, Step m s move r ∧ r.Twins d r'

theorem Matched.of_iff {able able' : Prop} (step : ∀ q, Step m s move q ↔ able ∧ q = r)
    (step' : ∀ q', Step m s' move q' ↔ able' ∧ q' = r') (same : able' ↔ able)
    (twins : r.Twins d r') : Matched m d move s s' := by
  constructor
  · intro q goes
    obtain ⟨can, rfl⟩ := (step q).1 goes
    exact ⟨r', (step' r').2 ⟨same.2 can, rfl⟩, twins⟩
  · intro q' goes
    obtain ⟨can, rfl⟩ := (step' q').1 goes
    exact ⟨r, (step r).2 ⟨same.1 can, rfl⟩, twins⟩

theorem Twins.matched_stop (twins : s.Twins d s') : Matched m d .stop s s' := by
  have idle {s q : System ω φ} (absent : s.poller.worker = none) :
      Step m s .stop q ↔ s.stopping = none ∧ q = s := by
    constructor
    · intro step
      cases step with
      | stopIdle free => exact ⟨free, rfl⟩
      | stop free found => cases absent.symm.trans found
    · rintro ⟨free, rfl⟩
      exact .stopIdle free absent
  have taken {s q : System ω φ} {w : Worker φ} (here : s.poller.worker = some w) :
      Step m s .stop q ↔ s.stopping = none ∧
        q = ⟨s.poller.takeWorker.2.retire, some (w.serial, s.shared.now + gracePeriod)⟩ := by
    constructor
    · intro step
      cases step with
      | stopIdle free absent => cases absent.symm.trans here
      | stop free found =>
        obtain rfl := Option.some.inj (here.symm.trans found)
        exact ⟨free, rfl⟩
    · rintro ⟨free, rfl⟩
      exact .stop free here
  obtain ⟨here, there⟩ | ⟨w, phase, here, there, -⟩ := twins.poller.workers
  · exact .of_iff (fun _ => idle here) (fun _ => idle there) twins.free twins
  · refine .of_iff (fun _ => taken here) (fun _ => taken there) twins.free
      ⟨twins.poller.takeWorker.retire, ?_⟩
    have now : s'.shared.now = d.now + s.shared.now := twins.poller.now
    simp only [Option.map_some, Worker.ahead, now, Nat.add_assoc]

theorem Twins.matched_stopEnds (twins : s.Twins d s') : Matched m d .stopEnds s s' := by
  cases waits : s.stopping with
  | none =>
    have waits' := twins.free.2 waits
    refine ⟨fun _ step => ?_, fun _ step => ?_⟩
    · cases step with
      | stopEnds waiting => cases waits.symm.trans waiting
    · cases step with
      | stopEnds waiting => cases waits'.symm.trans waiting
  | some stop =>
    obtain ⟨serial, deadline⟩ := stop
    have waits' : s'.stopping = some (d.serial + serial, d.now + deadline) := by
      rw [twins.stopping, waits, Option.map_some]
    have step {s q : System ω φ} {serial deadline : Nat}
        (waits : s.stopping = some (serial, deadline)) : Step m s .stopEnds q ↔
          s.CanRelease serial deadline ∧ q = ⟨s.poller.release serial, none⟩ := by
      constructor
      · intro step
        cases step with
        | stopEnds waiting ended =>
          obtain ⟨rfl, rfl⟩ := Prod.mk.inj (Option.some.inj (waits.symm.trans waiting))
          exact ⟨ended, rfl⟩
      · rintro ⟨ended, rfl⟩
        exact .stopEnds waits ended
    exact .of_iff (fun _ => step waits) (fun _ => step waits') (twins.canRelease serial deadline)
      ⟨twins.poller.release serial, rfl⟩

theorem step_iff_of_call {q : System ω φ} {f : Poller ω φ → Poller ω φ}
    (call : move.call? = some f) : Step m s move q ↔ s.stopping = none ∧ q = s.update f := by
  constructor
  · intro step
    cases step <;> cases call <;> exact ⟨‹_›, rfl⟩
  · rintro ⟨free, rfl⟩
    cases move <;> cases call
    · exact .start _ free
    · exact .next free
    · exact .reset free
    · exact .getMessage free
    · exact .getLastMessage free

theorem step_iff_of_event {q : System ω φ} {f : Shared ω → Shared ω}
    (event : move.event? = some f) : Step m s move q ↔ q = s.update (·.modify f) := by
  constructor
  · intro step
    cases step <;> cases event <;> rfl
  · rintro rfl
    cases move <;> cases event
    · exact .pass _
    · exact .setClock _
    · exact .tell _

theorem step_waitEnds_iff {q : System ω φ} : Step m s .waitEnds q ↔
    (s.stopping = none ∧ s.shared.processing = false) ∧ q = s := by
  constructor
  · rintro ⟨⟩
    exact ⟨⟨‹_›, ‹_›⟩, rfl⟩
  · rintro ⟨⟨free, down⟩, rfl⟩
    exact .waitEnds free down

theorem step_waitTimesOut_iff {q : System ω φ} {limit : Nat} : Step m s (.waitTimesOut limit) q ↔
    (s.stopping = none ∧ s.shared.processing = true) ∧ q = s.update (·.note .info
      ("wait time exceeded " ++ spanText limit ++ ", stopping wait")) := by
  constructor
  · rintro ⟨⟩
    exact ⟨⟨‹_›, ‹_›⟩, rfl⟩
  · rintro ⟨⟨free, up⟩, rfl⟩
    exact .waitTimesOut limit free up

theorem Twins.matched_call {f : Poller ω φ → Poller ω φ} (twins : s.Twins d s')
    (call : move.call? = some f) : Matched m d move s s' := by
  have poller := twins.poller
  have same : (f s.poller).Twins d (f s'.poller) := by
    cases move <;> cases call
    · exact poller.start _
    · exact poller.next.2
    · exact poller.reset
    · exact poller.getMessage.2
    · exact poller.getLastMessage.2
  exact .of_iff (fun _ => step_iff_of_call call) (fun _ => step_iff_of_call call) twins.free
    ⟨same, twins.stopping⟩

theorem Twins.matched_event {f : Shared ω → Shared ω} (twins : s.Twins d s')
    (event : move.event? = some f) : Matched m d move s s' := by
  have same : (s.poller.modify f).Twins d (s'.poller.modify f) := by
    cases move <;> cases event
    · exact twins.poller.modify (Shared.leads_passed _)
    · exact twins.poller.modify
    · exact twins.poller.modify
  have after : Twins d (s.update (·.modify f)) (s'.update (·.modify f)) := ⟨same, twins.stopping⟩
  exact .of_iff (fun _ => (step_iff_of_event event).trans (true_and _).symm.to_iff)
    (fun _ => (step_iff_of_event event).trans (true_and _).symm.to_iff) Iff.rfl after

/-- A move of the caller or of time can be made in both or in neither. -/
theorem Twins.matched (twins : s.Twins d s') (other : move ≠ .work) : Matched m d move s s' := by
  have flag : s'.shared.processing = s.shared.processing := twins.poller.processing
  cases move with
  | work => exact absurd rfl other
  | stop => exact twins.matched_stop
  | stopEnds => exact twins.matched_stopEnds
  | waitEnds =>
    exact .of_iff (fun _ => step_waitEnds_iff) (fun _ => step_waitEnds_iff)
      (and_congr twins.free (by rw [flag])) twins
  | waitTimesOut limit =>
    exact .of_iff (fun _ => step_waitTimesOut_iff) (fun _ => step_waitTimesOut_iff)
      (and_congr twins.free (by rw [flag])) ⟨twins.poller.note _ _, twins.stopping⟩
  | pass ms => exact twins.matched_event rfl
  | setClock t => exact twins.matched_event rfl
  | tell event => exact twins.matched_event rfl
  | _ => exact twins.matched_call rfl

/-- Whoever has still to wake up does so, and shows nothing of it. -/
theorem Sound.wakes (sound : s.Sound) : ∃ h q, Run m s h q ∧ h.sights = [] ∧ q.poller.Awake ∧
    (q = s ∨ q = { s with poller := s.poller.rouse }) := by
  cases fresh : s.poller.active?.any (·.isFresh) with
  | false => exact ⟨_, _, .nil, rfl, sound.awake_iff.2 fresh, .inl rfl⟩
  | true =>
    exact ⟨_, _, .cons .nil (.work (sound.rouses fresh)), sights_of_rouses fresh,
      rouse_awake _, .inr rfl⟩

def Shows (m : Mailboxes ω φ) (s : System ω φ) (sights : List Sight)
    (near : System ω φ → Prop) : Prop :=
  ∃ h r, Run m s h r ∧ h.sights = sights ∧ near r

/-- A relation of systems under which the second does all that the first does, and shows the same.
Whoever has still to wake up in one of them may do so. -/
structure Follows (m : Mailboxes ω φ) (near : System ω φ → System ω φ → Prop) : Prop where
  rouses : ∀ {s s'}, near s s' → near { s with poller := s.poller.rouse } s'
  roused : ∀ {s s'}, near s s' → near s { s' with poller := s'.poller.rouse }
  works : ∀ {s s' p}, near s s' → s.poller.Awake → s'.poller.Awake →
    s.poller.stepWorker m = some p → ∃ p', s'.poller.stepWorker m = some p' ∧
      near { s with poller := p } { s' with poller := p' }
  moves : ∀ {s s' r move}, near s s' → move ≠ .work → Step m s move r →
    ∃ r', Step m s' move r' ∧ near r r'
  sight : ∀ {s s' r r'}, near s s' → near r r' → ∀ move,
    Transition.sight ⟨move, s', r'⟩ = Transition.sight ⟨move, s, r⟩

namespace Follows

variable {near : System ω φ → System ω φ → Prop} (follows : Follows m near)
include follows

theorem work (sound : s.Sound) (sound' : s'.Sound) (alike : near s s') (step : Step m s .work r) :
    Shows m s' (History.sights [⟨.work, s, r⟩]) (near r) := by
  cases step with
  | @work p goes =>
    cases fresh : s.poller.active?.any (·.isFresh) with
    | true =>
      obtain rfl := Option.some.inj ((sound.rouses fresh).symm.trans goes)
      exact ⟨_, _, .nil, (sights_of_rouses fresh).symm, follows.rouses alike⟩
    | false =>
      obtain ⟨h', q', run', silent, awake', came⟩ := sound'.wakes (m := m)
      have closer : near s q' := by
        obtain rfl | rfl := came
        · exact alike
        · exact follows.roused alike
      obtain ⟨p', goes', after⟩ := follows.works closer (sound.awake_iff.2 fresh) awake' goes
      have seen : Transition.rouses ⟨.work, s, { s with poller := p }⟩ = false := fresh
      have seen' : Transition.rouses ⟨.work, q', { q' with poller := p' }⟩ = false :=
        (run'.sound sound').awake_iff.1 awake'
      refine ⟨_, _, run'.cons (.work goes'), ?_, after⟩
      rw [sights_cons_of_seen seen', sights_cons_of_seen seen, silent, follows.sight closer after]
      rfl

theorem step (sound : s.Sound) (sound' : s'.Sound) (alike : near s s') (step : Step m s move r) :
    Shows m s' (History.sights [⟨move, s, r⟩]) (near r) := by
  by_cases work : move = .work
  · subst work
    exact follows.work sound sound' alike step
  · obtain ⟨r', step', after⟩ := follows.moves alike work step
    have seen (s r : System ω φ) : Transition.rouses ⟨move, s, r⟩ = false := by
      cases move <;> first | rfl | exact absurd rfl work
    refine ⟨_, r', .cons .nil step', ?_, after⟩
    rw [sights_cons_of_seen (seen ..), sights_cons_of_seen (seen ..), follows.sight alike after]

/-- Every run is followed by a run that shows the same. -/
theorem run {h : History ω φ} (sound : s.Sound) (sound' : s'.Sound) (alike : near s s')
    (run : Run m s h r) : Shows m s' h.sights (near r) := by
  induction run with
  | nil => exact ⟨_, _, .nil, rfl, alike⟩
  | cons past step ih =>
    obtain ⟨h', q', run', same, closer⟩ := ih
    obtain ⟨later, r', further, seen, after⟩ :=
      follows.step (past.sound sound) (run'.sound sound') closer step
    refine ⟨_, r', run'.append further, ?_, after⟩
    rw [sights_append, seen, same, ← sights_append]
    rfl

end Follows

theorem Twins.follows : Follows m (Twins d) where
  rouses twins := ⟨twins.poller.rouse_left, twins.stopping⟩
  roused twins := ⟨twins.poller.rouse_right, twins.stopping⟩
  works twins awake awake' goes :=
    let ⟨p', goes', leads⟩ := stepWorker_of_leads (twins.poller.leads awake awake') goes
    ⟨p', goes', leads.twins, twins.stopping⟩
  moves twins other step := (twins.matched other).1 _ step
  sight before after move := before.sight after move

theorem Twins.follows_back : Follows m (fun s' s => Twins d s s') where
  rouses twins := ⟨twins.poller.rouse_right, twins.stopping⟩
  roused twins := ⟨twins.poller.rouse_left, twins.stopping⟩
  works twins awake' awake goes' :=
    let ⟨p, goes, leads⟩ := stepWorker_of_led (twins.poller.leads awake awake') goes'
    ⟨p, goes, leads.twins, twins.stopping⟩
  moves twins other step' := (twins.matched other).2 _ step'
  sight before after move := (before.sight after move).symm

end System

end MailRound.Poller
