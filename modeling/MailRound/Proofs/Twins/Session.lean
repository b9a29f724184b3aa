import MailRound.Proofs.Twins.Timeline

namespace MailRound.Poller

variable {ω φ : Type}

inductive Operation where
  | start (autoSelect : Bool)
  | stop
  | next
  | wait (limit : Nat)
  | waitForever
  | sleep (ms : Nat)
  | reset
  | getMessage
  | getLastMessage
  | currentAccount
  | enabledAccounts
  | isProcessing
  | workerStatus
  | setClock (t : Calendar.Instant)

inductive Answer where
  | nothing
  | flag (up : Bool)
  | message (m? : Option Message)
  | account (a? : Option Account)
  | accounts (as : List Account)
  | status (status : Status)

/-- What an operation answers and leaves, unless it is a wait without a limit. -/
def perform (m : Mailboxes ω φ) (p : Poller ω φ) : Operation → Option (Answer × Poller ω φ)
  | .start auto => some (.nothing, p.start auto)
  | .stop => some (.nothing, p.stop m)
  | .next => some (.flag p.next.1, p.next.2)
  | .wait limit => some (.flag (p.wait m limit).1, (p.wait m limit).2)
  | .waitForever => none
  | .sleep ms => some (.nothing, p.sleep m ms)
  | .reset => some (.nothing, p.reset)
  | .getMessage => some (.message p.getMessage.1, p.getMessage.2)
  | .getLastMessage => some (.message p.getLastMessage.1, p.getLastMessage.2)
  | .currentAccount => some (.account p.shared.cursor.current?, p)
  | .enabledAccounts => some (.accounts p.shared.cursor.accounts, p)
  | .isProcessing => some (.flag p.shared.processing, p)
  | .workerStatus => some (.status p.shared.status, p)
  | .setClock t => some (.nothing, p.modify fun s => { s with clock := t })

/-- A wait without a limit need not come back. -/
inductive Performs (m : Mailboxes ω φ) (p : Poller ω φ) : Operation → Answer → Poller ω φ → Prop
  | atOnce {op answer q} (done : p.perform m op = some (answer, q)) : Performs m p op answer q
  | waits {q} (awaits : Awaits m p q) : Performs m p .waitForever (.flag true) q

/-- An operation with what it answers and the calls to mailboxes that are made until it does. -/
structure Exchange where
  operation : Operation
  answer : Answer
  calls : List Call

/-- Operations one after the other, the newest first. -/
inductive Session (m : Mailboxes ω φ) (start : Poller ω φ) :
    List Exchange → Poller ω φ → Prop
  | nil : Session m start [] start
  | cons {exchanges p op answer q} (past : Session m start exchanges p)
    (performs : Performs m p op answer q) :
    Session m start (⟨op, answer, q.shared.calls.drop p.shared.calls.length⟩ :: exchanges) q

section

variable {m : Mailboxes ω φ} {p p' q q' : Poller ω φ} {op : Operation} {answer answer' : Answer}

theorem Performs.unique (performs : Performs m p op answer q)
    (performs' : Performs m p op answer' q') : answer' = answer ∧ q' = q := by
  cases performs with
  | atOnce done =>
    cases performs' with
    | atOnce done' =>
      obtain ⟨rfl, rfl⟩ := Prod.mk.inj (Option.some.inj (done.symm.trans done'))
      exact ⟨rfl, rfl⟩
    | waits awaits => cases done
  | waits awaits =>
    cases performs' with
    | atOnce done => cases done
    | waits awaits' => exact ⟨rfl, awaits.unique awaits'⟩

theorem Session.unique {exchanges : List Exchange} (session : Session m p exchanges q)
    (session' : Session m p exchanges q') : q' = q := by
  induction session generalizing q' with
  | nil =>
    cases session'
    rfl
  | cons past performs ih =>
    generalize same : (⟨_, _, _⟩ :: _ : List Exchange) = exchanges at session'
    cases session' with
    | nil => cases same
    | cons past' performs' =>
      obtain ⟨exchange, rfl⟩ := List.cons.inj same
      obtain ⟨rfl, rfl, -⟩ := Exchange.mk.inj exchange
      obtain rfl := ih past'
      exact (performs.unique performs').2

variable (near : Poller ω φ → Poller ω φ → Prop)

/-- What one poller answers at once or after a wait, the other answers too. -/
theorem Performs.follows (atOnce : Option.Rel (fun r r' => r'.1 = r.1 ∧ near r.2 r'.2)
      (p.perform m op) (p'.perform m op))
    (waits : ∀ q, Awaits m p q → ∃ q', Awaits m p' q' ∧ near q q')
    (performs : Performs m p op answer q) : ∃ q', Performs m p' op answer q' ∧ near q q' := by
  cases performs with
  | atOnce done =>
    rw [done] at atOnce
    generalize done' : p'.perform m op = r'? at atOnce
    cases atOnce with
    | @some _ r' alike =>
      obtain ⟨answer', q'⟩ := r'
      obtain ⟨rfl, left⟩ := alike
      exact ⟨q', .atOnce done', left⟩
  | waits awaits =>
    obtain ⟨q', awaits', left⟩ := waits q awaits
    exact ⟨q', .waits awaits', left⟩

theorem Session.follows {exchanges : List Exchange}
    (made : ∀ {p p' q q'}, near p p' → near q q' → q'.shared.calls.drop p'.shared.calls.length =
      q.shared.calls.drop p.shared.calls.length)
    (performs : ∀ {exchanges q q'}, Session m p exchanges q → Session m p' exchanges q' →
      near q q' → ∀ op answer r, Performs m q op answer r →
        ∃ r', Performs m q' op answer r' ∧ near r r')
    (alike : near p p') (session : Session m p exchanges q) :
    ∃ q', Session m p' exchanges q' ∧ near q q' := by
  induction session with
  | nil => exact ⟨_, .nil, alike⟩
  | cons past step ih =>
    obtain ⟨r, past', closer⟩ := ih
    obtain ⟨q', step', after⟩ := performs past past' closer _ _ _ step
    have session' := past'.cons step'
    rw [made closer after] at session'
    exact ⟨q', session', after⟩

end

namespace System

variable {m : Mailboxes ω φ} {s s' : System ω φ} {p q : Poller ω φ} {op : Operation}
  {answer : Answer} {d : Offset}

theorem run_of_awaits (awaits : Awaits m p q) (stopping : Option (Nat × Nat)) :
    ∃ h, Run m ⟨p, stopping⟩ h ⟨q, stopping⟩ := by
  induction awaits with
  | done down => exact ⟨_, .nil⟩
  | goes busy goes rest ih =>
    obtain ⟨h, run⟩ := ih
    exact ⟨_, (Run.nil.cons (.work goes)).append run⟩
  | @passes p q t busy stuck due rest ih =>
    obtain ⟨h, run⟩ := ih
    have step := Step.atTime (m := m) ⟨p, stopping⟩ (Nat.le_max_right t p.shared.now)
    exact ⟨_, (Run.nil.cons step).append run⟩

/-- Every operation is made of moves. -/
theorem Sound.run_of_performs (sound : s.Sound) (listed : s.Listed) (free : s.stopping = none)
    (performs : Performs m s.poller op answer q) : ∃ h, Run m s h ⟨q, none⟩ := by
  obtain ⟨p, stopping⟩ := s
  dsimp only at free performs
  subst free
  cases performs with
  | waits awaits => exact run_of_awaits awaits none
  | atOnce done =>
    have run (deadline : Nat) (done : Poller ω φ → Bool) :
        ∃ h, Run m ⟨p, none⟩ h ⟨p.run m done deadline, none⟩ :=
      let ⟨h, run, _⟩ := (run_settles sound listed done deadline).elapses
      ⟨h, run⟩
    cases op with
    | start auto =>
      obtain ⟨-, rfl⟩ := Prod.mk.inj (Option.some.inj done)
      exact ⟨_, .cons .nil (.start auto rfl)⟩
    | stop =>
      obtain ⟨-, rfl⟩ := Prod.mk.inj (Option.some.inj done)
      obtain ⟨h, run, -⟩ := stop_comes_back (m := m) sound listed rfl
      exact ⟨h, run⟩
    | next =>
      obtain ⟨-, rfl⟩ := Prod.mk.inj (Option.some.inj done)
      exact ⟨_, .cons .nil (.next rfl)⟩
    | wait limit =>
      obtain ⟨-, rfl⟩ := Prod.mk.inj (Option.some.inj done)
      cases busy : p.shared.processing with
      | false =>
        rw [wait, busy]
        exact ⟨_, .nil⟩
      | true =>
        obtain ⟨h, run⟩ := run (p.shared.now + limit) (fun p => !p.shared.processing)
        rw [wait_of_busy busy]
        dsimp only
        cases up : (p.run m (fun p => !p.shared.processing)
            (p.shared.now + limit)).shared.processing with
        | true => exact ⟨_, run.cons (.waitTimesOut limit rfl up)⟩
        | false => exact ⟨h, run⟩
    | waitForever => cases done
    | sleep ms =>
      obtain ⟨-, rfl⟩ := Prod.mk.inj (Option.some.inj done)
      exact run _ _
    | reset =>
      obtain ⟨-, rfl⟩ := Prod.mk.inj (Option.some.inj done)
      exact ⟨_, .cons .nil (.reset rfl)⟩
    | getMessage =>
      obtain ⟨-, rfl⟩ := Prod.mk.inj (Option.some.inj done)
      exact ⟨_, .cons .nil (.getMessage rfl)⟩
    | getLastMessage =>
      obtain ⟨-, rfl⟩ := Prod.mk.inj (Option.some.inj done)
      exact ⟨_, .cons .nil (.getLastMessage rfl)⟩
    | setClock t =>
      obtain ⟨-, rfl⟩ := Prod.mk.inj (Option.some.inj done)
      exact ⟨_, .cons .nil (.setClock t)⟩
    | _ =>
      obtain ⟨-, rfl⟩ := Prod.mk.inj (Option.some.inj done)
      exact ⟨_, .nil⟩

/-- Pollers of this kind answer the same at once. -/
theorem Sound.perform_twins (sound : s.Sound) (listed : s.Listed) (sound' : s'.Sound)
    (listed' : s'.Listed) (free : s.stopping = none) (free' : s'.stopping = none)
    (twins : s.poller.Twins d s'.poller) (op : Operation) :
    Option.Rel (fun r r' => r'.1 = r.1 ∧ r.2.Twins d r'.2) (s.poller.perform m op)
      (s'.poller.perform m op) := by
  cases op with
  | start auto => exact .some ⟨rfl, twins.start auto⟩
  | stop => exact .some ⟨rfl, sound.stop_twins listed sound' listed' twins free free'⟩
  | next => exact .some ⟨congrArg Answer.flag twins.next.1, twins.next.2⟩
  | wait limit =>
    obtain ⟨same, left⟩ := sound.wait_twins (m := m) listed sound' listed' twins limit
    exact .some ⟨congrArg Answer.flag same, left⟩
  | waitForever => exact .none
  | sleep ms => exact .some ⟨rfl, sound.sleep_twins listed sound' listed' twins ms⟩
  | reset => exact .some ⟨rfl, twins.reset⟩
  | getMessage => exact .some ⟨congrArg Answer.message twins.getMessage.1, twins.getMessage.2⟩
  | getLastMessage =>
    exact .some ⟨congrArg Answer.message twins.getLastMessage.1, twins.getLastMessage.2⟩
  | currentAccount => exact .some ⟨congrArg (Answer.account ·.current?) twins.cursor, twins⟩
  | enabledAccounts => exact .some ⟨congrArg (Answer.accounts ·.accounts) twins.cursor, twins⟩
  | isProcessing => exact .some ⟨congrArg Answer.flag twins.processing, twins⟩
  | workerStatus => exact .some ⟨congrArg Answer.status twins.status, twins⟩
  | setClock t => exact .some ⟨rfl, twins.modify (f := fun s => { s with clock := t })⟩

theorem Sound.performs_twins (sound : s.Sound) (listed : s.Listed) (sound' : s'.Sound)
    (listed' : s'.Listed) (free : s.stopping = none) (free' : s'.stopping = none)
    (twins : s.poller.Twins d s'.poller) (op : Operation) (answer : Answer) :
    (∀ q, Performs m s.poller op answer q →
      ∃ q', Performs m s'.poller op answer q' ∧ q.Twins d q') ∧
    ∀ q', Performs m s'.poller op answer q' →
      ∃ q, Performs m s.poller op answer q ∧ q.Twins d q' := by
  have atOnce := sound.perform_twins (m := m) listed sound' listed' free free' twins op
  obtain ⟨forth, back⟩ := sound.awaits_twins (m := m) listed sound' listed' twins
  refine ⟨fun q => Performs.follows _ atOnce forth, fun q' => Performs.follows _ ?_ back⟩
  generalize s.poller.perform m op = r? at atOnce ⊢
  generalize s'.poller.perform m op = r'? at atOnce ⊢
  cases atOnce with
  | none => exact .none
  | some alike => exact .some ⟨alike.1.symm, alike.2⟩

theorem Sound.run_of_session {exchanges : List Exchange} (sound : s.Sound) (listed : s.Listed)
    (free : s.stopping = none) (session : Session m s.poller exchanges q) :
    ∃ h, Run m s h ⟨q, none⟩ := by
  induction session with
  | nil =>
    obtain ⟨p, stopping⟩ := s
    dsimp only at free
    subst free
    exact ⟨_, .nil⟩
  | @cons exchanges p op answer q past performs ih =>
    obtain ⟨h, run⟩ := ih
    obtain ⟨h', run'⟩ := (run.sound sound).run_of_performs (run.listed sound listed) rfl performs
    exact ⟨_, run.append run'⟩

/-- Pollers of this kind have the same sessions. -/
theorem Sound.session_twins (sound : s.Sound) (listed : s.Listed) (sound' : s'.Sound)
    (listed' : s'.Listed) (free : s.stopping = none) (free' : s'.stopping = none)
    (twins : s.poller.Twins d s'.poller) (exchanges : List Exchange) :
    (∀ q, Session m s.poller exchanges q →
      ∃ q', Session m s'.poller exchanges q' ∧ q.Twins d q') ∧
    ∀ q', Session m s'.poller exchanges q' →
      ∃ q, Session m s.poller exchanges q ∧ q.Twins d q' := by
  have perform {exchanges : List Exchange} {p p' : Poller ω φ}
      (past : Session m s.poller exchanges p) (past' : Session m s'.poller exchanges p')
      (twins : p.Twins d p') (op : Operation) (answer : Answer) :=
    let ⟨_, run⟩ := sound.run_of_session listed free past
    let ⟨_, run'⟩ := sound'.run_of_session listed' free' past'
    (run.sound sound).performs_twins (m := m) (run.listed sound listed) (run'.sound sound')
      (run'.listed sound' listed') rfl rfl twins op answer
  constructor
  · exact fun q => Session.follows _ (fun before after => before.made after)
      (fun past past' twins op answer => (perform past past' twins op answer).1) twins
  · exact fun q' => Session.follows (fun p' p => p.Twins d p')
      (fun before after => (before.made after).symm)
      (fun past' past twins op answer => (perform past past' twins op answer).2) twins

end System

end MailRound.Poller
