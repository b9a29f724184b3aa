import MailRound.Program.Loop
import MailRound.Proofs.Round.Waiting

namespace MailRound.Poller

section Steps

variable {ω φ : Type} {m : Mailboxes ω φ} {start : System ω φ} {h : History ω φ} {p : Poller ω φ}
  {spot : Spot}

theorem Loop.notes (loop : Loop m start h ⟨p, none⟩ spot) (going : spot ≠ .ended) (text : String) :
    ∃ h', Loop m start h' ⟨Program.note p text, none⟩ spot ∧ h'.handed = h.handed := by
  exact ⟨_, .beside loop going rfl (.tell ⟨.info, .program, text⟩), handed_cons_of_nil rfl⟩

theorem Loop.announces (messages : List Message) (loop : Loop m start h ⟨p, none⟩ spot)
    (going : spot ≠ .ended) :
    ∃ h', Loop m start h' ⟨messages.foldl Program.announce p, none⟩ spot ∧
      h'.handed = h.handed := by
  induction messages generalizing h p with
  | nil => exact ⟨h, loop, rfl⟩
  | cons x xs ih =>
    obtain ⟨h', loop', handed⟩ := loop.notes going _
    obtain ⟨h'', loop'', handed'⟩ := ih loop'
    exact ⟨h'', loop'', handed'.trans handed⟩

theorem Loop.announcesAccount (loop : Loop m start h ⟨p, none⟩ spot) (going : spot ≠ .ended) :
    ∃ h', Loop m start h' ⟨Program.announceAccount p, none⟩ spot ∧ h'.handed = h.handed := by
  unfold Program.announceAccount
  split
  · exact loop.notes going _
  · exact ⟨h, loop, rfl⟩

theorem Loop.takesAll (loop : Loop m start h ⟨p, none⟩ spot)
    (draining : spot = .looking ∨ spot = .closing) :
    ∃ h', Loop m start h' ⟨p.drain.2, none⟩ spot ∧
      h'.handed = h.handed ++ p.shared.queue.messages := by
  generalize messages : p.shared.queue.messages = xs
  induction xs generalizing h p with
  | nil =>
    have same : p.drain.2 = p := by
      simp only [drain, modify, Queue.takeAll, Queue.clear, ← messages]
    rw [same]
    exact ⟨h, loop, by rw [List.append_nil]⟩
  | cons x xs ih =>
    have get : p.shared.queue.get? = (some x, { p.shared.queue with messages := xs }) := by
      simp [Queue.get?, messages]
    have taken : p.getMessage.1 = some x := by simp [getMessage, get]
    have left : p.getMessage.2.shared.queue.messages = xs := by simp [getMessage, get, modify]
    have same : p.getMessage.2.drain.2 = p.drain.2 := by
      simp [getMessage, get, modify, drain, Queue.takeAll, Queue.clear]
    obtain ⟨h', loop', handed⟩ := ih (p := p.getMessage.2)
      (.takes loop draining (.getMessage rfl) taken) left
    rw [same] at loop'
    refine ⟨h', loop', ?_⟩
    rw [handed, handed_cons]
    simp [Transition.handed, taken]

def Spot.emptied : Spot → Spot
  | .looking => .waiting
  | _ => .selecting

theorem Loop.drains (loop : Loop m start h ⟨p, none⟩ spot)
    (draining : spot = .looking ∨ spot = .closing) :
    ∃ h', Loop m start h' ⟨(Program.drain p).2, none⟩ spot.emptied ∧
      h'.handed = h.handed ++ (Program.drain p).1 := by
  obtain ⟨h', loop', handed⟩ := loop.takesAll draining
  have empty : p.drain.2.getMessage.1 = none := rfl
  have found : ∃ h'', Loop m start h'' ⟨p.drain.2, none⟩ spot.emptied ∧ h''.handed = h'.handed := by
    have nothing : History.handed (⟨.getMessage, ⟨p.drain.2, none⟩, ⟨p.drain.2, none⟩⟩ :: h') =
        h'.handed := handed_cons_of_nil rfl
    obtain rfl | rfl := draining
    · exact ⟨_, .looked loop' (.getMessage rfl) empty, nothing⟩
    · exact ⟨_, .closed loop' (.getMessage rfl) empty, nothing⟩
  obtain ⟨h'', loop'', handed'⟩ := found
  obtain ⟨h₃, loop₃, handed₃⟩ := loop''.announces p.shared.queue.messages (by
    obtain rfl | rfl := draining <;> simp [Spot.emptied])
  exact ⟨h₃, loop₃, handed₃.trans (handed'.trans handed)⟩

theorem foldl_announce (messages : List Message) (p : Poller ω φ) : ∃ log,
    messages.foldl Program.announce p = { p with shared := { p.shared with log := log } } := by
  induction messages generalizing p with
  | nil => exact ⟨p.shared.log, rfl⟩
  | cons x xs ih =>
    obtain ⟨log, rest⟩ := ih (Program.announce p x)
    exact ⟨log, by rw [List.foldl_cons, rest]; rfl⟩

theorem follows_drain (p : Poller ω φ) : Follows p (Program.drain p).2 := by
  obtain ⟨log, same⟩ := foldl_announce p.shared.queue.messages p.drain.2
  have drained : (Program.drain p).2 = { p.drain.2 with
      shared := { p.drain.2.shared with log := log } } := same
  rw [drained]
  exact ⟨rfl, Nat.le_refl _, .inr ⟨rfl, rfl⟩⟩

theorem announceAccount_cursor (p : Poller ω φ) :
    (Program.announceAccount p).shared.cursor = p.shared.cursor := by
  unfold Program.announceAccount
  split <;> rfl

theorem Selection.place {result : Bool × Poller ω φ} (selection : Selection p result)
    (more : result.1 = true) :
    result.2.shared.cursor.place = p.shared.cursor.place + 1 ∧
      p.shared.cursor.place < p.shared.cursor.accounts.length := by
  have chosen : result.2.shared.cursor = p.shared.cursor.advance.2 ∧
      p.shared.cursor.advance.2.current?.isSome = true := by
    cases selection with
    | exhausted log past => cases more
    | deferred log chosen absent => exact ⟨rfl, chosen⟩
    | signalled log chosen w here => exact ⟨rfl, chosen⟩
  obtain ⟨a, current⟩ := Option.isSome_iff_exists.1 chosen.2
  obtain ⟨-, place, left, -⟩ := Cursor.advance_of_some current
  refine ⟨by rw [chosen.1, place], Nat.lt_of_not_le fun behind => ?_⟩
  rw [List.drop_eq_nil_of_le behind] at left
  cases left

end Steps

/-- After a wait that has timed out, and some time more, the worker has fewer steps to make or less
time to wait for. -/
theorem Outlasts.closer {p p' p'' : Poller Script.Scripts Script.Step} {limit : Nat}
    (outlasts : Outlasts p p' limit) (follows : Follows p' p'')
    (later : p.shared.now < p''.shared.now) :
    Prod.Lex (· < ·) (· < ·) (load p'', delay p'') (load p, delay p) := by
  obtain less | ⟨same, here⟩ := (outlasts.follows.trans follows).nearer
  · exact .left _ _ less
  · obtain less' | ⟨-, here'⟩ := outlasts.follows.nearer
    · have := follows.nearer
      omega
    · obtain ⟨w, t, worker, due, before⟩ := outlasts.waits
      have passed := outlasts.follows.later
      rw [same]
      refine .right _ ?_
      simp only [delay, here, ← here', worker, Option.bind_some, due, Option.getD_some]
      omega

section Ends

variable {roster : Roster} {defaults : Polling} {scripts : Script.Scripts}
  {clock : Calendar.Instant}

/-- With enough rounds the wait for an account ends by itself, always in the same way. -/
theorem waitOut_ends (calm : Script.Calm scripts) (limit : Nat)
    (h : History Script.Scripts Script.Step) (p : Poller Script.Scripts Script.Step)
    (loop : Rounds roster defaults scripts clock h ⟨p, none⟩ .waiting) :
    ∃ enough messages p',
      (∀ rounds, enough ≤ rounds →
        Program.waitOut Script.mailboxes limit rounds p = ⟨true, messages, p'⟩) ∧
      p'.shared.cursor = p.shared.cursor ∧
      ∃ h', Rounds roster defaults scripts clock h' ⟨p', none⟩ .closing ∧
        h'.handed = h.handed ++ messages := by
  -- By recursion: after a wait that has timed out the worker is closer to its end.
  obtain ⟨h', p', waited, loop', handed, follows⟩ | ⟨h₁, p₁, waited, loop₁, handed₁, outlasts⟩ :=
    wait_cases calm loop limit
  · refine ⟨1, [], p', ?_, follows.cursor, h', loop', by rw [handed, List.append_nil]⟩
    intro rounds enough
    obtain ⟨rounds, rfl⟩ := Nat.exists_eq_add_of_le' enough
    rw [Program.waitOut, waited]
  · obtain ⟨h₂, loop₂, handed₂⟩ := loop₁.drains (.inl rfl)
    have drained := follows_drain p₁
    -- A wait without a limit is followed by a sleep, so that time passes in any case.
    obtain ⟨p₃, next, follows, later, h₃, loop₃, handed₃⟩ : ∃ p₃,
        (if limit = 0 then (Program.drain p₁).2.sleep Script.mailboxes 1
          else (Program.drain p₁).2) = p₃ ∧ Follows p₁ p₃ ∧ p.shared.now < p₃.shared.now ∧
        ∃ h₃, Rounds roster defaults scripts clock h₃ ⟨p₃, none⟩ .waiting ∧
          h₃.handed = h₂.handed := by
      have passed := outlasts.later
      have after := drained.later
      by_cases zero : limit = 0
      · obtain ⟨loop₃, slept, awake⟩ := sleep_follows calm loop₂ 1
        refine ⟨_, if_pos zero, drained.trans slept, ?_, loop₃⟩
        dsimp only at awake passed
        omega
      · refine ⟨_, if_neg zero, drained, ?_, h₂, loop₂, rfl⟩
        dsimp only at passed
        omega
    have closer := outlasts.closer follows later
    obtain ⟨enough, messages, p', same, cursor, h', loop', handed'⟩ :=
      waitOut_ends calm limit h₃ p₃ loop₃
    refine ⟨enough + 1, (Program.drain p₁).1 ++ messages, p', ?_, ?_, h', loop', ?_⟩
    · intro rounds more
      obtain ⟨rounds, rfl⟩ :=
        Nat.exists_eq_add_of_le' (Nat.le_trans (Nat.le_add_left 1 enough) more)
      rw [Program.waitOut, waited]
      dsimp only
      rw [next, same rounds (Nat.le_of_succ_le_succ more)]
    · exact cursor.trans (follows.cursor.trans outlasts.follows.cursor)
    · rw [handed', handed₃, handed₂, handed₁, List.append_assoc]
termination_by (load p, delay p)
decreasing_by exact closer

/-- So does the loop over the accounts, if it may select one time more than there are accounts. -/
theorem pollAll_ends (calm : Script.Calm scripts) (limit : Nat)
    (h : History Script.Scripts Script.Step) (p : Poller Script.Scripts Script.Step)
    (loop : Rounds roster defaults scripts clock h ⟨p, none⟩ .waiting) :
    ∃ enough messages p',
      (∀ rounds turns, enough ≤ rounds → roster.enabled.length - p.shared.cursor.place < turns →
        Program.pollAll Script.mailboxes limit rounds turns p = ⟨true, messages, p'⟩) ∧
      ∃ h', Rounds roster defaults scripts clock h' ⟨p', none⟩ .ended ∧
        h'.handed = h.handed ++ messages := by
  obtain ⟨h₁, loop₁, handed₁⟩ := loop.announcesAccount (by simp)
  obtain ⟨enough, messages, p₂, waited, cursor, h₂, loop₂, handed₂⟩ :=
    waitOut_ends calm limit h₁ _ loop₁
  obtain ⟨h₃, loop₃, handed₃⟩ := loop₂.drains (.inr rfl)
  -- Up to the selection the cursor has not moved.
  have here : (Program.drain p₂).2.shared.cursor = p.shared.cursor :=
    (follows_drain p₂).cursor.trans (cursor.trans (announceAccount_cursor p))
  obtain ⟨w, way⟩ := (loop₃.arrives calm).1 (by simp [Spot.emptied])
  have accounts : (Program.drain p₂).2.shared.cursor.accounts = roster.enabled := way.accounts
  have selection := next_selection (Program.drain p₂).2 fun v there =>
    (loop₃.sound.installed v there).accepting
  cases more : (Program.drain p₂).2.next.1 with
  | true =>
    have pair : (Program.drain p₂).2.next = (true, (Program.drain p₂).2.next.2) :=
      Prod.ext more rfl
    obtain ⟨place, left⟩ := selection.place more
    rw [accounts, here] at left
    rw [here] at place
    have closer : roster.enabled.length - (Program.drain p₂).2.next.2.shared.cursor.place <
        roster.enabled.length - p.shared.cursor.place := by omega
    obtain ⟨enough', messages', p', same, h', loop', handed'⟩ :=
      pollAll_ends calm limit _ (Program.drain p₂).2.next.2 (.selects loop₃ (.next rfl) more)
    refine ⟨max enough enough', messages ++ (Program.drain p₂).1 ++ messages', p', ?_, h', loop',
      ?_⟩
    · intro rounds turns many above
      obtain ⟨turns, rfl⟩ := Nat.exists_eq_add_of_le' (Nat.one_le_of_lt above)
      have rest := same rounds turns (by omega) (by omega)
      rw [Program.pollAll, waited rounds (by omega)]
      dsimp only
      rw [pair]
      dsimp only
      rw [rest]
      rfl
    · rw [handed', handed_cons_of_nil rfl, handed₃, handed₂, handed₁]
      simp only [List.append_assoc]
  | false =>
    have pair : (Program.drain p₂).2.next = (false, (Program.drain p₂).2.next.2) :=
      Prod.ext more rfl
    refine ⟨enough, messages ++ (Program.drain p₂).1, (Program.drain p₂).2.next.2, ?_, _,
      .ends loop₃ (.next rfl) more, ?_⟩
    · intro rounds turns many above
      obtain ⟨turns, rfl⟩ := Nat.exists_eq_add_of_le' (Nat.one_le_of_lt above)
      rw [Program.pollAll, waited rounds many]
      dsimp only
      rw [pair]
    · rw [handed_cons_of_nil rfl, handed₃, handed₂, handed₁, List.append_assoc]
termination_by roster.enabled.length - p.shared.cursor.place
decreasing_by exact closer

end Ends

end MailRound.Poller
