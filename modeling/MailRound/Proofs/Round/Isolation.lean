import Mathlib.Data.List.Basic
import MailRound.Proofs.Round.Refinement

namespace MailRound

namespace Script

theorem take_fst (scripts : Scripts) (id : String) :
    (take scripts id).1 = ((scripts.lookup id).bind List.head?).getD .empty := by
  induction scripts with
  | nil => rfl
  | cons entry rest ih =>
    obtain ⟨key, steps⟩ := entry
    by_cases same : key = id
    · cases steps <;> simp [take, same]
    · have other : (id == key) = false := by simpa using Ne.symm same
      simp only [take, if_neg same, List.lookup_cons, other]
      exact ih

theorem lookup_take (scripts : Scripts) (id id' : String) :
    (take scripts id).2.lookup id' =
      if id' = id then (scripts.lookup id).map List.tail else scripts.lookup id' := by
  induction scripts with
  | nil => simp [take]
  | cons entry rest ih =>
    obtain ⟨key, steps⟩ := entry
    by_cases same : key = id
    · subst same
      by_cases here : id' = key
      · cases steps <;> simp [take, here]
      · have other : (id' == key) = false := by simpa using here
        cases steps <;> simp [take, List.lookup_cons, here, other]
    · simp only [take, if_neg same]
      by_cases here : id' = key
      · subst here
        simp [same]
      · have other : (id' == key) = false := by simpa using here
        have apart : (id == key) = false := by simpa using Ne.symm same
        simp only [List.lookup_cons, other, apart]
        exact ih

end Script

namespace Plain

def news (others : List Message) (m : Message) : Bool := !others.any (·.id == m.id)

/-- What was kept before only takes away the messages with the same ids. -/
theorem keep_apart (others own batch : List Message) :
    keep (others ++ own.filter (news others)) batch =
      others ++ (keep own batch).filter (news others) := by
  induction batch generalizing own with
  | nil => rfl
  | cons m ms ih =>
    have seen : (others ++ own.filter (news others)).any (·.id == m.id) =
        (!news others m || own.any (·.id == m.id)) := by
      rw [List.any_append, news, Bool.not_not]
      cases old : others.any (·.id == m.id) with
      | true => rfl
      | false =>
        simp only [Bool.false_or, List.any_filter]
        refine List.any_congr rfl fun x => ?_
        by_cases same : x.id = m.id
        · simp [news, same, old]
        · simp [same]
    have step : keepOne (others ++ own.filter (news others)) m =
        others ++ (keepOne own m).filter (news others) := by
      unfold keepOne
      rw [seen]
      cases blank : (Text.trim m.id).isEmpty with
      | true => rfl
      | false =>
        cases kept : own.any (·.id == m.id) with
        | true => simp
        | false => cases new : news others m <;> simp [new]
    unfold keep at ih ⊢
    rw [List.foldl_cons, List.foldl_cons, step, ih]

/-- Attempts for an account follow its own script, whatever the others are and were. -/
theorem attempts_apart (others : List Message) (id : String) (n : Nat) {x y : Mail}
    (scripts : x.scripts.lookup id = y.scripts.lookup id)
    (kept : x.kept = others ++ y.kept.filter (news others)) :
    (attempts id n x).kept = others ++ (attempts id n y).kept.filter (news others) := by
  induction n generalizing x y with
  | zero => exact kept
  | succ n ih =>
    have step : (Script.take x.scripts id).1 = (Script.take y.scripts id).1 := by
      rw [Script.take_fst, Script.take_fst, scripts]
    have rest :
        (Script.take x.scripts id).2.lookup id = (Script.take y.scripts id).2.lookup id := by
      simp only [Script.lookup_take, if_true, scripts]
    simp only [attempts_succ, step]
    cases outcome (Script.take y.scripts id).1 with
    | ok batch =>
      refine ih rest ?_
      rw [kept]
      exact keep_apart others y.kept batch
    | error why =>
      cases why with
      | unknownProvider tag => exact kept
      | _ => exact ih rest kept

theorem lookup_attempts {id id' : String} (other : id' ≠ id) (n : Nat) (x : Mail) :
    (attempts id n x).scripts.lookup id' = x.scripts.lookup id' := by
  induction n generalizing x with
  | zero => rfl
  | succ n ih =>
    have rest : (Script.take x.scripts id).2.lookup id' = x.scripts.lookup id' := by
      rw [Script.lookup_take, if_neg other]
    rw [attempts_succ]
    cases outcome (Script.take x.scripts id).1 with
    | ok batch => exact (ih _).trans rest
    | error why =>
      cases why with
      | unknownProvider tag => exact rest
      | _ => exact (ih _).trans rest

theorem lookup_foldl_poll (defaults : Polling) {accounts : List Account} {id : String}
    (other : ∀ a ∈ accounts, a.id ≠ id) (x : Mail) :
    (accounts.foldl (poll defaults) x).scripts.lookup id = x.scripts.lookup id := by
  induction accounts generalizing x with
  | nil => rfl
  | cons a rest ih =>
    obtain ⟨here, there⟩ := List.forall_mem_cons.1 other
    exact (ih there _).trans (lookup_attempts (Ne.symm here) _ x)

/-- What an account adds is what it would keep alone, but for the ids that were there before. -/
theorem poll_apart (defaults : Polling) (b : Account) {x : Mail} {alone : Script.Scripts}
    (scripts : x.scripts.lookup b.id = alone.lookup b.id) :
    (poll defaults x b).kept =
      x.kept ++ (poll defaults ⟨alone, []⟩ b).kept.filter (news x.kept) :=
  attempts_apart x.kept b.id _ scripts (List.append_nil _).symm

end Plain

namespace Poller

/-- The messages that were handed out while an account was selected, the oldest first. -/
def History.handedFor {ω φ : Type} (h : History ω φ) (id : String) : List Message :=
  h.reverse.flatMap fun t =>
    if t.before.shared.cursor.current?.any (·.id == id) then t.handed else []

theorem handedFor_cons {ω φ : Type} (t : Transition ω φ) (h : History ω φ) (id : String) :
    History.handedFor (t :: h) id = h.handedFor id ++
      if t.before.shared.cursor.current?.any (·.id == id) then t.handed else [] := by
  simp [History.handedFor]

theorem handedFor_cons_of_nil {ω φ : Type} {t : Transition ω φ} {h : History ω φ}
    (none : t.handed = []) (id : String) : History.handedFor (t :: h) id = h.handedFor id := by
  simp [handedFor_cons, none]

/-- A list of accounts around the one that is selected. -/
structure Around (c : Cursor) (plan front : List Account) (a : Account) (back : List Account) :
    Prop where
  whole : plan = front ++ a :: back
  upTo : plan.take c.place = front ++ [a]
  after : plan.drop c.place = back
  earlier : ∀ k < c.place, plan.take k = front.take k

theorem around_current {c : Cursor} {plan : List Account} {a : Account}
    (current : c.current? = some a) (accounts : c.accounts = plan) :
    ∃ front back, Around c plan front a back := by
  subst accounts
  obtain ⟨i, index, found⟩ := Option.bind_eq_some_iff.1 current
  obtain ⟨inside, rfl⟩ := List.getElem?_eq_some_iff.1 found
  have place : c.place = i + 1 := by rw [Cursor.place, index]
  refine ⟨c.accounts.take i, c.accounts.drop (i + 1), ?_, ?_, ?_, fun k less => ?_⟩
  · rw [← List.drop_eq_getElem_cons inside, List.take_append_drop]
  · rw [place, List.take_succ_eq_append_getElem inside]
  · rw [place]
  · rw [List.take_take, Nat.min_eq_left (by omega)]

theorem apart_of_nodup {front back : List Account} {a : Account}
    (distinct : ((front ++ a :: back).map (·.id)).Nodup) :
    (∀ b ∈ front, b.id ≠ a.id) ∧ ∀ b ∈ back, b.id ≠ a.id := by
  rw [List.map_append, List.map_cons, List.nodup_append, List.nodup_cons] at distinct
  obtain ⟨-, ⟨later, -⟩, apart⟩ := distinct
  refine ⟨fun b among => ?_, fun b among same => ?_⟩
  · exact apart _ (List.mem_map_of_mem among) _ List.mem_cons_self
  · exact later (same ▸ List.mem_map_of_mem among)

/-- What the accounts up to the selected one have handed out, each its own part: with what is still
to be done for the selected one, the plain program has come as far. -/
structure Shares (defaults : Polling) (plan : List Account) (init : Plain.Mail)
    (h : History Script.Scripts Script.Step) (p : Poller Script.Scripts Script.Step)
    (w : Worker Script.Step) : Prop where
  rest : w.rest defaults p.shared.cursor.current?
    ⟨p.shared.world, h.handed ++ p.shared.queue.messages⟩ =
      (plan.take p.shared.cursor.place).foldl (Plain.poll defaults) init
  handed : h.handed = (plan.take p.shared.cursor.place).flatMap (h.handedFor ·.id)
  before : ∀ k < p.shared.cursor.place, ((plan.take k).foldl (Plain.poll defaults) init).kept =
    (plan.take k).flatMap (h.handedFor ·.id)
  ahead : ∀ a ∈ plan.drop p.shared.cursor.place, h.handedFor a.id = []

namespace Shares

variable {defaults : Polling} {plan : List Account} {init final : Plain.Mail}
  {h : History Script.Scripts Script.Step} {p : Poller Script.Scripts Script.Step}
  {s : System Script.Scripts Script.Step} {w w' : Worker Script.Step} {spot : Spot}

theorem frame {t : Transition Script.Scripts Script.Step}
    (shares : Shares defaults plan init h t.before.poller w) (handed : t.handed = [])
    (cursor : t.after.shared.cursor = t.before.shared.cursor)
    (rest : w'.rest defaults t.after.shared.cursor.current?
        ⟨t.after.shared.world, h.handed ++ t.after.shared.queue.messages⟩ =
      w.rest defaults t.before.shared.cursor.current?
        ⟨t.before.shared.world, h.handed ++ t.before.shared.queue.messages⟩) :
    Shares defaults plan init (t :: h) t.after.poller w' := by
  have same := handed_cons_of_nil (h := h) handed
  have parts (a : Account) := handedFor_cons_of_nil (h := h) handed a.id
  refine ⟨?_, ?_, ?_, ?_⟩ <;> rw [cursor]
  · rw [same, ← cursor, rest, cursor]
    exact shares.rest
  · simp only [same, parts]
    exact shares.handed
  · simp only [parts]
    exact shares.before
  · simp only [parts]
    exact shares.ahead

theorem takes {a : Account} {x : Message} (shares : Shares defaults plan init h s.poller w)
    (distinct : (plan.map (·.id)).Nodup) (accounts : s.shared.cursor.accounts = plan)
    (current : s.shared.cursor.current? = some a) (taken : s.poller.getMessage.1 = some x) :
    Shares defaults plan init (⟨.getMessage, s, s.update (·.getMessage.2)⟩ :: h)
      (s.update (·.getMessage.2)).poller w := by
  obtain ⟨front, back, around⟩ := around_current current accounts
  obtain ⟨earlier, later⟩ := apart_of_nodup (around.whole ▸ distinct)
  let t : Transition Script.Scripts Script.Step := ⟨.getMessage, s, s.update (·.getMessage.2)⟩
  have own : History.handedFor (t :: h) a.id = h.handedFor a.id ++ [x] := by
    simp [t, handedFor_cons, current, Transition.handed, taken]
  have others (b : Account) (other : b.id ≠ a.id) :
      History.handedFor (t :: h) b.id = h.handedFor b.id := by
    simp [t, handedFor_cons, current, Ne.symm other]
  have fronts {accounts : List Account} (among : accounts ⊆ front) :
      accounts.flatMap (History.handedFor (t :: h) ·.id) = accounts.flatMap (h.handedFor ·.id) :=
    List.flatMap_congr fun b here => others b (earlier b (among here))
  have handed := shares.handed
  rw [show s.poller.shared.cursor = s.shared.cursor from rfl, around.upTo, List.flatMap_append]
    at handed
  refine ⟨?_, ?_, fun k less => ?_, ?_⟩
  · rw [show (s.update (·.getMessage.2)).poller.shared = (s.update (·.getMessage.2)).shared
      from rfl, handed_getMessage taken]
    exact shares.rest
  · refine Eq.trans ?_ (congrArg (List.flatMap _) around.upTo).symm
    rw [List.flatMap_append, fronts (List.Subset.refl _), handed_cons, handed]
    simp [own, t, Transition.handed, taken]
  · rw [shares.before k less, around.earlier k less, fronts (List.take_subset _ _)]
  · intro b among
    rw [others b (later b ?_)]
    · exact shares.ahead b among
    · exact around.after ▸ among

/-- Between two accounts the plain program has come to the end of the earlier ones. -/
theorem between (shares : Shares defaults plan init h p w) (outside : w.cycle? = none)
    (unsignalled : w.signal = false) (empty : p.shared.queue.messages = []) :
    (⟨p.shared.world, h.handed⟩ : Plain.Mail) =
      (plan.take p.shared.cursor.place).foldl (Plain.poll defaults) init := by
  rw [← shares.rest, Worker.rest_of_idle outside unsignalled, empty, List.append_nil]

theorem signalled {strides : Nat} {begun : List Account}
    {result : Bool × Poller Script.Scripts Script.Step} (shares : Shares defaults plan init h p w)
    (ready : Ready defaults plan final h.handed begun strides p w)
    (empty : p.shared.queue.messages = []) (selection : Selection p result)
    (more : result.1 = true) (move : Move) (s : System Script.Scripts Script.Step)
    (handed : Transition.handed ⟨move, s, ⟨result.2, none⟩⟩ = []) :
    ∃ w', result.2.worker = some w' ∧
      Shares defaults plan init (⟨move, s, ⟨result.2, none⟩⟩ :: h) result.2 w' ∧
      result.2.shared.cursor.current?.isSome = true := by
  cases selection with
  | exhausted log past => cases more
  | deferred log chosen absent => cases ready.here.symm.trans absent
  | signalled log chosen v here =>
    obtain rfl := Option.some.inj (ready.here.symm.trans here)
    obtain ⟨a, selected⟩ := Option.isSome_iff_exists.1 chosen
    obtain ⟨-, place, left, taken⟩ := Cursor.advance_of_some selected
    rw [ready.accounts] at left taken
    have now := shares.between ready.outside ready.unsignalled empty
    have parts (a : Account) := handedFor_cons_of_nil (h := h) handed a.id
    have mine : h.handedFor a.id = [] := shares.ahead a (by rw [left]; exact List.mem_cons_self)
    refine ⟨_, rfl, ⟨?_, ?_, fun k less => ?_, fun b among => ?_⟩, chosen⟩
    · rw [handed_cons_of_nil handed]
      simp only [advanced, Queue.clear, selected, place, List.append_nil,
        Worker.rest_of_signal ready.outside]
      rw [taken, List.foldl_append, ← now]
      rfl
    · rw [handed_cons_of_nil handed]
      simp only [parts]
      simp only [advanced, place, taken, List.flatMap_append, List.flatMap_cons, List.flatMap_nil,
        mine, List.append_nil]
      exact shares.handed
    · simp only [advanced, place] at less
      simp only [parts]
      by_cases earlier : k < p.shared.cursor.place
      · exact shares.before k earlier
      · obtain rfl : k = p.shared.cursor.place := by omega
        rw [← now, ← shares.handed]
    · simp only [advanced, place] at among
      rw [parts]
      exact shares.ahead b (by rw [left]; exact List.mem_cons_of_mem _ among)

/-- Behind the last account every one has its part. -/
theorem exhausted {strides : Nat} {begun : List Account}
    {result : Bool × Poller Script.Scripts Script.Step} (shares : Shares defaults plan init h p w)
    (ready : Ready defaults plan final h.handed begun strides p w)
    (empty : p.shared.queue.messages = []) (selection : Selection p result)
    (less : result.1 = false) (k : Nat) :
    ((plan.take k).foldl (Plain.poll defaults) init).kept =
      (plan.take k).flatMap (h.handedFor ·.id) := by
  cases selection with
  | exhausted log past =>
    obtain ⟨-, behind⟩ := Cursor.advance_of_none past
    rw [ready.accounts] at behind
    by_cases earlier : k < p.shared.cursor.place
    · exact shares.before k earlier
    · have all : plan.take k = plan.take p.shared.cursor.place := by
        rw [List.take_of_length_le behind, List.take_of_length_le (by omega)]
      rw [all, ← shares.between ready.outside ready.unsignalled empty, ← shares.handed]
  | deferred log chosen absent => cases less
  | signalled log chosen v here => cases less

end Shares

section

variable {roster : Roster} {defaults : Polling} {scripts : Script.Scripts}
  {clock : Calendar.Instant} {h : History Script.Scripts Script.Step}
  {s : System Script.Scripts Script.Step} {spot : Spot}

theorem shares_starting {p : Poller Script.Scripts Script.Step} (calm : Script.Calm scripts)
    (starting : Starting (Poller.new roster defaults scripts clock) true p) :
    ∃ w, p.worker = some w ∧ Shares defaults roster.enabled ⟨scripts, []⟩
      [⟨.start true, .new roster defaults scripts clock, ⟨p, none⟩⟩] p w ∧
      (roster.enabled = [] ∨ p.shared.cursor.current?.isSome = true) := by
  cases starting with
  | running log live => simp [hasLiveWorker, Poller.new] at live
  | selecting dead =>
    obtain ⟨log, selection⟩ := auto_selection
      (Poller.new roster defaults scripts clock : Poller Script.Scripts Script.Step)
    have ready := ready_new roster defaults clock log calm
    have shares : Shares defaults roster.enabled ⟨scripts, []⟩ []
        ((Poller.new roster defaults scripts clock).manned log) (Worker.spawn 0) :=
      ⟨rfl, rfl, fun _ less => absurd less (Nat.not_lt_zero _), fun _ _ => rfl⟩
    generalize ((Poller.new roster defaults scripts clock).installWorker true).next = result
      at selection ⊢
    cases more : result.1 with
    | true =>
      obtain ⟨w, here, shares, chosen⟩ := shares.signalled ready rfl selection more (.start true)
        (.new roster defaults scripts clock) rfl
      exact ⟨w, here, shares, .inr chosen⟩
    | false =>
      have none := (ready.exhausted selection more).2
      rw [← none]
      cases selection with
      | exhausted log' past =>
        refine ⟨_, rfl, ⟨?_, ?_, fun k _ => ?_, fun b among => ?_⟩, .inl rfl⟩
        · rw [List.take_nil, Worker.rest_of_idle rfl rfl]
          rfl
        · rw [List.take_nil]
          rfl
        · rw [List.take_nil]
          rfl
        · simp at among
      | deferred log' chosen absent => cases more
      | signalled log' chosen v here => cases more

/-- The worker that is there has come so far, and each account has its part. An account is selected,
unless there is none. -/
structure Parted (defaults : Polling) (plan : List Account) (scripts : Script.Scripts)
    (h : History Script.Scripts Script.Step) (s : System Script.Scripts Script.Step)
    (w : Worker Script.Step) : Prop where
  here : s.poller.worker = some w
  shares : Shares defaults plan ⟨scripts, []⟩ h s.poller w
  selected : plan = [] ∨ s.shared.cursor.current?.isSome = true

variable {plan : List Account} {final : Plain.Mail} {s' : System Script.Scripts Script.Step}
  {spot : Spot} {move : Move} {w : Worker Script.Step}

theorem OnWay.parted (way : OnWay defaults plan final h s spot w)
    (parted : ∃ v, Parted defaults plan scripts h s v) : Parted defaults plan scripts h s w := by
  obtain ⟨v, parted⟩ := parted
  obtain rfl := Option.some.inj (parted.here.symm.trans way.here)
  exact parted

namespace Parted

theorem beside (parted : Parted defaults plan scripts h s w)
    (way : OnWay defaults plan final h s spot w) (sound : s.Sound) (outer : move.beside = true)
    (step : System.Step Script.mailboxes s move s') :
    ∃ w', Parted defaults plan scripts (⟨move, s, s'⟩ :: h) s' w' := by
  obtain ⟨here, shares, selected⟩ := parted
  cases step with
  | work goes =>
    obtain ⟨w', way', rest, -⟩ := way.work sound goes
    obtain ⟨_, _, _, _, turned⟩ := sound.turned goes
    have cursor := turned.effect.stays.cursor
    exact ⟨w', way'.here, shares.frame rfl cursor rest, cursor ▸ selected⟩
  | pass ms => exact ⟨w, here, shares.frame rfl rfl rfl, selected⟩
  | setClock t => exact ⟨w, here, shares.frame rfl rfl rfl, selected⟩
  | tell event => exact ⟨w, here, shares.frame rfl rfl rfl, selected⟩
  | _ => cases outer

theorem nothing (parted : Parted defaults plan scripts h s w)
    (way : OnWay defaults plan final h s spot w) (sound : s.Sound)
    (unselected : s.shared.cursor.current? = none) : s.poller.getMessage.1 = none := by
  have fits := sound.installed w way.here
  have outside : w.cycle? = none := by
    cases inside : w.cycle? with
    | none => rfl
    | some c =>
      have current := (fits.current c inside (way.present.inside c inside).2.symm).1
      cases unselected.symm.trans current
  have unsignalled : w.signal = false := by
    cases signal : w.signal with
    | false => rfl
    | true => simpa [unselected] using way.present.signalled signal
  have vacant : plan = [] := parted.selected.resolve_right (by simp [unselected])
  have rest := parted.shares.rest
  rw [Worker.rest_of_idle outside unsignalled, vacant, List.take_nil, List.foldl_nil] at rest
  have none : h.handed ++ s.shared.queue.messages = [] := congrArg Plain.Mail.kept rest
  simp [getMessage, Queue.get?, (List.append_eq_nil_iff.1 none).2]

theorem takes {x : Message} (parted : Parted defaults plan scripts h s w)
    (way : OnWay defaults plan final h s spot w) (sound : s.Sound)
    (distinct : (plan.map (·.id)).Nodup)
    (step : System.Step Script.mailboxes s .getMessage s')
    (taken : s.poller.getMessage.1 = some x) :
    Parted defaults plan scripts (⟨.getMessage, s, s'⟩ :: h) s' w := by
  cases step with
  | getMessage free =>
    cases current : s.shared.cursor.current? with
    | some a =>
      exact ⟨parted.here, parted.shares.takes distinct way.accounts current taken, parted.selected⟩
    | none => exact absurd taken (by rw [parted.nothing way sound current]; simp)

theorem looked (parted : Parted defaults plan scripts h s w)
    (step : System.Step Script.mailboxes s .getMessage s')
    (empty : s.poller.getMessage.1 = none) :
    Parted defaults plan scripts (⟨.getMessage, s, s'⟩ :: h) s' w := by
  cases step with
  | getMessage free =>
    rw [(getMessage_none empty).2]
    exact ⟨parted.here, parted.shares.frame (by simp [Transition.handed, empty]) rfl rfl,
      parted.selected⟩

theorem selects (parted : Parted defaults plan scripts h s w)
    (way : OnWay defaults plan final h s .selecting w) (sound : s.Sound)
    (step : System.Step Script.mailboxes s .next s') (more : s.poller.next.1 = true) :
    ∃ w', Parted defaults plan scripts (⟨.next, s, s'⟩ :: h) s' w' := by
  cases step with
  | next free =>
    rw [System.update_of_free free]
    obtain ⟨w', here, shares, chosen⟩ := parted.shares.signalled (way.ready sound)
      (way.drained rfl) sound.selection more .next _ rfl
    exact ⟨w', here, shares, .inr chosen⟩

end Parted

theorem Loop.shares (calm : Script.Calm scripts)
    (distinct : (roster.enabled.map (·.id)).Nodup)
    (loop : Rounds roster defaults scripts clock h s spot) :
    (spot ≠ .ended → ∃ w, Parted defaults roster.enabled scripts h s w) ∧
    (spot = .ended → ∀ k, ((roster.enabled.take k).foldl (Plain.poll defaults) ⟨scripts, []⟩).kept =
      (roster.enabled.take k).flatMap (h.handedFor ·.id)) := by
  -- By induction over the history, along with `OnWay`.
  induction loop with
  | starts step =>
    refine ⟨fun _ => ?_, by simp⟩
    cases step with
    | start auto free =>
      rw [System.update_of_free free]
      obtain ⟨w, here, shares, selected⟩ := shares_starting calm (start_starting _ true)
      exact ⟨w, here, shares, selected⟩
  | beside past going outer step ih =>
    obtain ⟨w, way⟩ := (past.arrives calm).1 going
    exact ⟨fun _ => (way.parted (ih.1 going)).beside way past.sound outer step,
      fun ended => absurd ended going⟩
  | timesOut limit past step ih =>
    obtain ⟨w, parted⟩ := ih.1 (by simp)
    refine ⟨fun _ => ⟨w, ?_⟩, by simp⟩
    cases step with
    | waitTimesOut _ free up =>
      exact ⟨parted.here, parted.shares.frame rfl rfl rfl, parted.selected⟩
  | completes past step ih =>
    obtain ⟨w, parted⟩ := ih.1 (by simp)
    refine ⟨fun _ => ⟨w, ?_⟩, by simp⟩
    cases step with
    | waitEnds free done =>
      exact ⟨parted.here, parted.shares.frame rfl rfl rfl, parted.selected⟩
  | @takes h s spot s' x past draining step taken ih =>
    have going : spot ≠ .ended := by rintro rfl; simp at draining
    obtain ⟨w, way⟩ := (past.arrives calm).1 going
    exact ⟨fun _ => ⟨w, (way.parted (ih.1 going)).takes way past.sound distinct step taken⟩,
      fun ended => absurd ended going⟩
  | looked past step empty ih =>
    obtain ⟨w, parted⟩ := ih.1 (by simp)
    exact ⟨fun _ => ⟨w, parted.looked step empty⟩, by simp⟩
  | closed past step empty ih =>
    obtain ⟨w, parted⟩ := ih.1 (by simp)
    exact ⟨fun _ => ⟨w, parted.looked step empty⟩, by simp⟩
  | selects past step more ih =>
    obtain ⟨w, way⟩ := (past.arrives calm).1 (by simp)
    exact ⟨fun _ => (way.parted (ih.1 (by simp))).selects way past.sound step more, by simp⟩
  | ends past step none ih =>
    obtain ⟨w, way⟩ := (past.arrives calm).1 (by simp)
    have parted := way.parted (ih.1 (by simp))
    refine ⟨by simp, fun _ k => ?_⟩
    rw [parted.shares.exhausted (way.ready past.sound) (way.drained rfl)
      past.sound.selection none k]
    exact List.flatMap_congr fun a _ => (handedFor_cons_of_nil rfl a.id).symm

theorem rounds_end (roster : Roster) (defaults : Polling) (clock : Calendar.Instant)
    (calm : Script.Calm scripts) :
    ∃ h p, Rounds roster defaults scripts clock h ⟨p, none⟩ .ended := by
  obtain ⟨_, _, p, -, h, loop, -⟩ :=
    pollAll_ends calm 0 _ _ (Rounds.start roster defaults scripts clock)
  exact ⟨h, p, loop⟩

/-- What an account hands out is its part of what the plain program keeps. -/
theorem Loop.handedFor_eq (calm : Script.Calm scripts)
    (distinct : (roster.enabled.map (·.id)).Nodup) {front back : List Account} {b : Account}
    (here : roster.enabled = front ++ b :: back)
    (loop : Rounds roster defaults scripts clock h s .ended) :
    (front.foldl (Plain.poll defaults) ⟨scripts, []⟩).kept = front.flatMap (h.handedFor ·.id) ∧
      (Plain.poll defaults (front.foldl (Plain.poll defaults) ⟨scripts, []⟩) b).kept =
        front.flatMap (h.handedFor ·.id) ++ h.handedFor b.id := by
  have parts := (loop.shares calm distinct).2 rfl
  have first := parts front.length
  have second := parts (front.length + 1)
  rw [here, List.take_left] at first
  rw [here, List.append_cons, List.take_left' (by simp), List.foldl_append, List.flatMap_append]
    at second
  exact ⟨first, by simpa using second⟩

end

/-- For scripts in which no call panics and accounts with distinct ids, the loop comes to its end.
What it hands out while an account is selected is what it hands out in a run with that account alone
and the same script for it, in the same order, less the messages with the id of a message that was
handed out for an account before it. -/
theorem accounts_apart_up_to_ids (roster : Roster) (defaults : Polling)
    (clock : Calendar.Instant) (scripts alone : Script.Scripts) (calm : Script.Calm scripts)
    (quiet : Script.Calm alone) (distinct : (roster.enabled.map (·.id)).Nodup)
    {front back : List Account} {b : Account} (here : roster.enabled = front ++ b :: back)
    (same : alone.lookup b.id = scripts.lookup b.id) :
    (∃ h p, Rounds roster defaults scripts clock h ⟨p, none⟩ .ended) ∧
    (∃ h p, Rounds ⟨[b]⟩ defaults alone clock h ⟨p, none⟩ .ended) ∧
    ∀ h s h' s', Rounds roster defaults scripts clock h s .ended →
      Rounds ⟨[b]⟩ defaults alone clock h' s' .ended →
      h.handedFor b.id =
        (h'.handedFor b.id).filter (Plain.news (front.flatMap (h.handedFor ·.id))) := by
  refine ⟨rounds_end roster defaults clock calm, rounds_end _ defaults clock quiet, ?_⟩
  intro h s h' s' joint single
  have enabled : b.enabled = true :=
    (List.mem_filter.1 (show b ∈ roster.enabled by rw [here]; simp)).2
  have only : Roster.enabled ⟨[b]⟩ = [] ++ b :: [] := by simp [Roster.enabled, enabled]
  obtain ⟨before, upTo⟩ := joint.handedFor_eq calm distinct here
  obtain ⟨-, own⟩ := single.handedFor_eq quiet (by rw [only]; simp) only
  have untouched : (front.foldl (Plain.poll defaults) ⟨scripts, []⟩).scripts.lookup b.id =
      alone.lookup b.id := by
    rw [Plain.lookup_foldl_poll defaults (apart_of_nodup (here ▸ distinct)).1, same]
  rw [Plain.poll_apart defaults b untouched, before] at upTo
  rw [← List.append_cancel_left upTo]
  exact congrArg _ own

def homeBox : Account := ⟨"home", "imap", true, none, [], .default, none⟩

def workBox : Account := ⟨"work", "imap", true, none, [], .default, none⟩

theorem handedFor_twoBoxes {h : History Script.Scripts Script.Step}
    {s : System Script.Scripts Script.Step}
    (loop : Rounds twoBoxes ⟨2, 0, 10⟩ twoScripts ⟨0, 0⟩ h s .ended) :
    h.handedFor "home" = [plainMessage "1", plainMessage "2"] ∧
      h.handedFor "work" = [plainMessage "3"] := by
  have here : twoBoxes.enabled = [homeBox] ++ workBox :: [] := rfl
  obtain ⟨first, second⟩ := loop.handedFor_eq (by decide) (by decide) here
  have home : h.handedFor "home" = [plainMessage "1", plainMessage "2"] :=
    (List.append_nil _).symm.trans first.symm
  have both : [plainMessage "1", plainMessage "2"] ++ [plainMessage "3"] =
      (h.handedFor "home" ++ []) ++ h.handedFor "work" := second
  rw [home] at both
  exact ⟨home, (List.append_cancel_left both).symm⟩

theorem handedFor_workBox {h : History Script.Scripts Script.Step}
    {s : System Script.Scripts Script.Step}
    (loop : Rounds ⟨[workBox]⟩ ⟨2, 0, 10⟩ twoScripts ⟨0, 0⟩ h s .ended) :
    h.handedFor "work" = [plainMessage "2", plainMessage "3"] := by
  have here : Roster.enabled ⟨[workBox]⟩ = [] ++ workBox :: [] := rfl
  exact (loop.handedFor_eq (by decide) (by decide) here).2.symm

theorem accounts_apart_up_to_ids_twoBoxes :
    Script.Calm twoScripts ∧ (twoBoxes.enabled.map (·.id)).Nodup ∧
    (∃ h p, Rounds twoBoxes ⟨2, 0, 10⟩ twoScripts ⟨0, 0⟩ h ⟨p, none⟩ .ended) ∧
    (∃ h p, Rounds ⟨[workBox]⟩ ⟨2, 0, 10⟩ twoScripts ⟨0, 0⟩ h ⟨p, none⟩ .ended) ∧
    ∀ h s h' s', Rounds twoBoxes ⟨2, 0, 10⟩ twoScripts ⟨0, 0⟩ h s .ended →
      Rounds ⟨[workBox]⟩ ⟨2, 0, 10⟩ twoScripts ⟨0, 0⟩ h' s' .ended →
      h'.handedFor "work" = [plainMessage "2", plainMessage "3"] ∧
        h.handedFor "work" = [plainMessage "3"] := by
  have calm : Script.Calm twoScripts := by decide
  have distinct : (twoBoxes.enabled.map (·.id)).Nodup := by decide
  have here : twoBoxes.enabled = [homeBox] ++ workBox :: [] := rfl
  obtain ⟨joint, single, apart⟩ := accounts_apart_up_to_ids twoBoxes ⟨2, 0, 10⟩ ⟨0, 0⟩ twoScripts
    twoScripts calm calm distinct here rfl
  refine ⟨calm, distinct, joint, single, fun h s h' s' loop loop' => ?_⟩
  have own := handedFor_workBox loop'
  have less : h.handedFor "work" =
      (h'.handedFor "work").filter (Plain.news (h.handedFor "home" ++ [])) :=
    apart h s h' s' loop loop'
  rw [own, (handedFor_twoBoxes loop).1] at less
  exact ⟨own, less⟩

/-- The second box loses a message whose id the first box has used. -/
theorem accounts_not_apart :
    Script.Calm twoScripts ∧ (twoBoxes.enabled.map (·.id)).Nodup ∧ workBox ∈ twoBoxes.enabled ∧
    ¬∀ h s h' s', Rounds twoBoxes ⟨2, 0, 10⟩ twoScripts ⟨0, 0⟩ h s .ended →
      Rounds ⟨[workBox]⟩ ⟨2, 0, 10⟩ twoScripts ⟨0, 0⟩ h' s' .ended →
      h.handedFor workBox.id = h'.handedFor workBox.id := by
  have calm : Script.Calm twoScripts := by decide
  have among : workBox ∈ twoBoxes.enabled := by simp [twoBoxes, Roster.enabled, workBox]
  refine ⟨calm, by decide, among, fun apart => ?_⟩
  obtain ⟨h, p, joint⟩ := rounds_end twoBoxes ⟨2, 0, 10⟩ ⟨0, 0⟩ calm
  obtain ⟨h', p', single⟩ := rounds_end ⟨[workBox]⟩ ⟨2, 0, 10⟩ ⟨0, 0⟩ calm
  have same : h.handedFor "work" = h'.handedFor "work" := apart h _ h' _ joint single
  rw [(handedFor_twoBoxes joint).2, handedFor_workBox single] at same
  exact absurd (congrArg List.length same) (by decide)

end Poller

end MailRound
