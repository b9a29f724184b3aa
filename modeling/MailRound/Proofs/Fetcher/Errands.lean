import MailRound.Network.Token
import Mathlib.Tactic.SplitIfs

namespace MailRound

variable {ω α β ε : Type} {net : Network ω} {client : Web.Client} {P Q : List Exchange → α → Prop}
  {x : StateM (Desk ω) α}

/-- Whatever the desk, the work adds exchanges that fit what comes of it. -/
def Adds (x : StateM (Desk ω) α) (P : List Exchange → α → Prop) : Prop :=
  ∀ d, ∃ sent, (x.run d).2.exchanges = d.exchanges ++ sent ∧ P sent (x.run d).1

def Sends (such : Exchange → Prop) (x : StateM (Desk ω) α) : Prop :=
  Adds x fun sent _ => ∀ e ∈ sent, such e

namespace Adds

theorem mono (adds : Adds x P) (weaker : ∀ sent a, P sent a → Q sent a) : Adds x Q := by
  intro d
  obtain ⟨sent, added, fits⟩ := adds d
  exact ⟨sent, added, weaker _ _ fits⟩

theorem pure {a : α} (fits : P [] a) : Adds (Pure.pure a : StateM (Desk ω) α) P :=
  fun _ => ⟨[], (List.append_nil _).symm, fits⟩

theorem bind {f : α → StateM (Desk ω) β} {R : List Exchange → β → Prop} (first : Adds x P)
    (next : ∀ sent a, P sent a → Adds (f a) fun more b => R (sent ++ more) b) :
    Adds (x >>= f) R := by
  intro d
  obtain ⟨sent, added, fits⟩ := first d
  obtain ⟨more, then_added, fits⟩ := next _ _ fits (x.run d).2
  refine ⟨sent ++ more, ?_, fits⟩
  rw [← List.append_assoc, ← added]
  exact then_added

theorem note {events : List Log.Event} {P : List Exchange → Unit → Prop} (fits : P [] ()) :
    Adds (Desk.note events : StateM (Desk ω) Unit) P :=
  fun _ => ⟨[], (List.append_nil _).symm, fits⟩

/-- A request that cannot be put together is not made. Any other is one exchange. -/
theorem send {r : Except Web.Fault Web.Request}
    {P : List Exchange → Except Web.Fault Web.Reply → Prop}
    (unmade : ∀ fault, r = .error fault → P [] (.error fault))
    (made : ∀ request answer, r = .ok request → P [.web request answer] (answer.toReply request)) :
    Adds (Desk.send net client r) P := by
  cases r with
  | error fault => exact pure (unmade fault rfl)
  | ok request => exact fun _ => ⟨[.web request _], rfl, made request _ rfl⟩

theorem andThen {y : Errand ω α} {f : α → Errand ω β} {P : List Exchange → Outcome α → Prop}
    {R : List Exchange → Outcome β → Prop} (first : Adds y.run P)
    (failed : ∀ sent why, P sent (.error why) → R sent (.error why))
    (next : ∀ sent a, P sent (.ok a) → Adds (f a).run fun more b => R (sent ++ more) b) :
    Adds (y >>= f).run R := by
  rw [ExceptT.run_bind]
  refine first.bind fun sent outcome fits => ?_
  cases outcome with
  | ok a => exact next sent a fits
  | error why => exact pure (by simpa using failed sent why fits)

theorem liftThen {f : α → Errand ω β} {R : List Exchange → Outcome β → Prop} (first : Adds x P)
    (next : ∀ sent a, P sent a → Adds (f a).run fun more b => R (sent ++ more) b) :
    Adds (ExceptT.lift x >>= f).run R := by
  rw [ExceptT.run_bind_lift]
  exact first.bind next

theorem noteThen {origin : Log.Origin} {level : Log.Level} {text : String} {f : Unit → Errand ω β}
    {R : List Exchange → Outcome β → Prop} (next : Adds (f ()).run R) :
    Adds (Errand.note origin level text >>= f).run R := by
  unfold Errand.note
  refine Adds.liftThen (P := fun sent _ => sent = []) (Adds.note rfl) fun sent _ none => ?_
  subst none
  exact next

theorem require {why : ε → Failure} {r : Except ε α} {R : List Exchange → Outcome α → Prop}
    (failed : ∀ e, r = .error e → R [] (.error (why e))) (there : ∀ a, r = .ok a → R [] (.ok a)) :
    Adds (Errand.require why r : Errand ω α).run R := by
  cases r with
  | ok a => exact pure (there a rfl)
  | error e => exact pure (failed e rfl)

theorem requireThen {why : ε → Failure} {r : Except ε α} {f : α → Errand ω β}
    {R : List Exchange → Outcome β → Prop} (failed : ∀ e, r = .error e → R [] (.error (why e)))
    (next : ∀ a, r = .ok a → Adds (f a).run R) : Adds (Errand.require why r >>= f).run R := by
  cases r with
  | ok a => exact next a rfl
  | error e => exact pure (failed e rfl)

theorem drop (adds : Adds x P) (d : Desk ω) :
    P ((x.run d).2.exchanges.drop d.exchanges.length) (x.run d).1 := by
  obtain ⟨sent, added, fits⟩ := adds d
  rwa [added, List.drop_left]

end Adds

namespace Sends

variable {such : Exchange → Prop}

theorem bind {f : α → StateM (Desk ω) β} (first : Sends such x) (next : ∀ a, Sends such (f a)) :
    Sends such (x >>= f) :=
  Adds.bind first fun _ a before => (next a).mono fun _ _ after _ among =>
    (List.mem_append.1 among).elim (before _) (after _)

theorem pure (a : α) : Sends such (Pure.pure a : StateM (Desk ω) α) :=
  Adds.pure (List.forall_mem_nil such)

theorem note (events : List Log.Event) : Sends such (Desk.note events : StateM (Desk ω) Unit) :=
  Adds.note (List.forall_mem_nil such)

theorem send {r : Except Web.Fault Web.Request}
    (fits : ∀ request answer, r = .ok request → such (.web request answer)) :
    Sends such (Desk.send net client r) :=
  Adds.send (fun _ _ => List.forall_mem_nil such) fun request answer made =>
    List.forall_mem_singleton.2 (fits request answer made)

theorem andThen {y : Errand ω α} {f : α → Errand ω β} (first : Sends such y.run)
    (next : ∀ a, Sends such (f a).run) : Sends such (y >>= f).run :=
  Adds.andThen first (fun _ _ before => before) fun _ a before =>
    (next a).mono fun _ _ after _ among => (List.mem_append.1 among).elim (before _) (after _)

theorem lift (sends : Sends such x) : Sends such (ExceptT.lift x : Errand ω α).run := by
  rw [ExceptT.run_lift]
  exact sends

theorem liftThen {f : α → Errand ω β} (first : Sends such x) (next : ∀ a, Sends such (f a).run) :
    Sends such (ExceptT.lift x >>= f).run := by
  rw [ExceptT.run_bind_lift]
  exact first.bind next

theorem noteThen {origin : Log.Origin} {level : Log.Level} {text : String} {f : Unit → Errand ω β}
    (next : Sends such (f ()).run) : Sends such (Errand.note origin level text >>= f).run :=
  Adds.noteThen next

theorem requireThen {why : ε → Failure} {r : Except ε α} {f : α → Errand ω β}
    (next : ∀ a, r = .ok a → Sends such (f a).run) : Sends such (Errand.require why r >>= f).run :=
  Adds.requireThen (fun _ _ => List.forall_mem_nil such) next

end Sends

end MailRound
