import MailRound.Poller.Caller
import MailRound.Proofs.Poller.Run

namespace MailRound

/-- What may be done with a queue, or to the clock that it looks at. -/
inductive Queue.Use where
  | put (m : Message)
  | get
  | clear
  | setClock (t : Calendar.Instant)

namespace Ledger

/-- A line of the book: what was done, what was given out, and what the clock showed. -/
structure Line where
  use : Queue.Use
  given : Option Message
  clock : Calendar.Instant

def Line.put? (line : Line) : Option Message :=
  match line.use with
  | .put m => some m
  | _ => none

def Line.clears (line : Line) : Bool :=
  match line.use with
  | .clear => true
  | _ => false

def puts (lines : List Line) : List Message := lines.reverse.flatMap (·.put?.toList)

def gifts (lines : List Line) : List Message := lines.reverse.flatMap (·.given.toList)

def sinceClear (lines : List Line) : List Line := lines.takeWhile (!·.clears)

variable {line : Line} (lines : List Line)

@[simp] theorem puts_cons : puts (line :: lines) = puts lines ++ line.put?.toList := by
  simp [puts]

@[simp] theorem gifts_cons : gifts (line :: lines) = gifts lines ++ line.given.toList := by
  simp [gifts]

theorem puts_cons_of_none (h : line.put? = none) : puts (line :: lines) = puts lines := by
  rw [puts_cons, h, Option.toList_none, List.append_nil]

theorem sinceClear_cons_of_clears (h : line.clears = true) : sinceClear (line :: lines) = [] := by
  simp [sinceClear, h]

theorem sinceClear_cons (h : line.clears = false) :
    sinceClear (line :: lines) = line :: sinceClear lines := by
  simp [sinceClear, h]

end Ledger

/-- A queue with its clock and the book, the newest line first. -/
structure Ledger where
  queue : Queue
  clock : Calendar.Instant
  lines : List Ledger.Line

namespace Ledger

def new (clock : Calendar.Instant) : Ledger := ⟨.new, clock, []⟩

def enter (l : Ledger) (use : Queue.Use) : Ledger :=
  match use with
  | .put m => ⟨l.queue.put l.clock m, l.clock, ⟨use, none, l.clock⟩ :: l.lines⟩
  | .get => ⟨l.queue.get?.2, l.clock, ⟨use, l.queue.get?.1, l.clock⟩ :: l.lines⟩
  | .clear => ⟨l.queue.clear, l.clock, ⟨use, none, l.clock⟩ :: l.lines⟩
  | .setClock t => ⟨l.queue, t, ⟨use, none, l.clock⟩ :: l.lines⟩

def run (l : Ledger) (uses : List Queue.Use) : Ledger := uses.foldl enter l

def latestPut? (l : Ledger) : Option Line := l.lines.find? (·.put?.isSome)

theorem latestPut?_eq_none_iff (l : Ledger) : l.latestPut? = none ↔ puts l.lines = [] := by
  simp [latestPut?, puts]

/-- The queue is as the book tells. -/
structure Balanced (l : Ledger) : Prop where
  messages : gifts (sinceClear l.lines) ++ l.queue.messages = puts (sinceClear l.lines)
  total : l.queue.stats.totalMessages = (puts l.lines).length
  latest : l.queue.stats.lastMessageTime = l.latestPut?.map (·.clock)

theorem get?_conserves (q : Queue) : q.get?.1.toList ++ q.get?.2.messages = q.messages := by
  cases messages : q.messages <;> simp [Queue.get?, messages]

theorem get?_stats (q : Queue) : q.get?.2.stats = q.stats := by
  cases messages : q.messages <;> simp [Queue.get?, messages]

variable {l : Ledger}

theorem Balanced.enter (h : l.Balanced) (use : Queue.Use) : (l.enter use).Balanced := by
  cases use with
  | put m =>
    refine ⟨?_, ?_, rfl⟩
    · rw [Ledger.enter, sinceClear_cons _ rfl, gifts_cons, puts_cons, ← h.messages]
      simp [Queue.put, Line.put?]
    · rw [Ledger.enter, puts_cons, List.length_append, ← h.total]
      rfl
  | get =>
    have stats := get?_stats l.queue
    refine ⟨?_, ?_, ?_⟩
    · rw [Ledger.enter, sinceClear_cons _ rfl, gifts_cons, puts_cons_of_none _ rfl,
        List.append_assoc, get?_conserves, h.messages]
    · rw [Ledger.enter, puts_cons_of_none _ rfl, ← h.total, stats]
    · rw [Ledger.enter, stats]
      exact h.latest
  | clear =>
    refine ⟨?_, ?_, h.latest⟩
    · rw [Ledger.enter, sinceClear_cons_of_clears _ rfl]
      rfl
    · rw [Ledger.enter, puts_cons_of_none _ rfl]
      exact h.total
  | setClock t =>
    refine ⟨?_, ?_, h.latest⟩
    · rw [Ledger.enter, sinceClear_cons _ rfl, gifts_cons, puts_cons_of_none _ rfl,
        Option.toList_none, List.append_nil]
      exact h.messages
    · rw [Ledger.enter, puts_cons_of_none _ rfl]
      exact h.total

theorem Balanced.run (h : l.Balanced) (uses : List Queue.Use) : (l.run uses).Balanced := by
  induction uses generalizing l with
  | nil => exact h
  | cons use uses ih => exact ih (h.enter use)

theorem balanced_new (clock : Calendar.Instant) : (new clock).Balanced := ⟨rfl, rfl, rfl⟩

theorem lines_run (l : Ledger) (uses : List Queue.Use) :
    (l.run uses).lines.map (·.use) = uses.reverse ++ l.lines.map (·.use) := by
  induction uses generalizing l with
  | nil => rfl
  | cons use uses ih =>
    have entered : (l.enter use).lines.map (·.use) = use :: l.lines.map (·.use) := by
      cases use <;> rfl
    rw [run, List.foldl_cons, ← run, ih, entered, List.reverse_cons, List.append_assoc,
      List.singleton_append]

theorem lines_suffix (l : Ledger) (uses : List Queue.Use) : l.lines <:+ (l.run uses).lines := by
  induction uses generalizing l with
  | nil => exact List.suffix_refl _
  | cons use uses ih =>
    have entered : l.lines <:+ (l.enter use).lines := by
      cases use <;> exact List.suffix_cons _ _
    exact entered.trans (ih _)

theorem length_puts_le {lines lines' : List Line} (suffix : lines <:+ lines') :
    (puts lines).length ≤ (puts lines').length := by
  obtain ⟨later, rfl⟩ := suffix
  simp [puts]

end Ledger

namespace Poller

variable {ω φ : Type}

/-- A caller takes messages one by one until there is none. -/
inductive Emptied : Poller ω φ → List Message → Poller ω φ → Prop
  | done {p : Poller ω φ} (none : p.getMessage.1 = none) : Emptied p [] p.getMessage.2
  | takes {p q : Poller ω φ} {m : Message} {ms : List Message} (found : p.getMessage.1 = some m)
    (rest : Emptied p.getMessage.2 ms q) : Emptied p (m :: ms) q

variable {p q : Poller ω φ} {m : Message} {ms : List Message}

theorem getMessage_of_nil (nothing : p.shared.queue.messages = []) : p.getMessage = (none, p) := by
  have same : p.shared.queue.get? = (none, p.shared.queue) := by simp [Queue.get?, nothing]
  rw [getMessage, same]
  rfl

theorem getMessage_of_cons (waiting : p.shared.queue.messages = m :: ms) : p.getMessage =
    (some m, p.modify fun s => { s with queue := { s.queue with messages := ms } }) := by
  have taken : p.shared.queue.get? = (some m, { p.shared.queue with messages := ms }) := by
    simp [Queue.get?, waiting]
  rw [getMessage, taken]
  rfl

theorem getLastMessage_of_nil (nothing : p.shared.queue.messages = []) : p.getLastMessage.2 = p := by
  have same : p.shared.queue.clear = p.shared.queue := by rw [Queue.clear, ← nothing]
  rw [getLastMessage, Queue.takeLast?, same]
  rfl

/-- To take all messages and keep the last is to take them one by one. -/
theorem emptied_iff :
    p.Emptied ms q ↔ ms = p.shared.queue.messages ∧ q = p.getLastMessage.2 := by
  induction messages : p.shared.queue.messages generalizing p ms with
  | nil =>
    have none := getMessage_of_nil messages
    have last := getLastMessage_of_nil messages
    constructor
    · rintro (_ | ⟨found⟩)
      · rw [none, last]
        exact ⟨rfl, rfl⟩
      · rw [none] at found
        cases found
    · rintro ⟨rfl, rfl⟩
      rw [last]
      have done := Emptied.done (congrArg Prod.fst none)
      rwa [none] at done
  | cons m rest ih =>
    have taken := getMessage_of_cons messages
    have left : p.getMessage.2.shared.queue.messages = rest := by
      rw [taken]
      rfl
    have last : p.getMessage.2.getLastMessage.2 = p.getLastMessage.2 := by
      rw [taken]
      rfl
    constructor
    · rintro (⟨none⟩ | ⟨found, emptied⟩)
      · rw [taken] at none
        cases none
      · rw [taken] at found
        obtain ⟨rfl, rfl⟩ := (ih left).1 emptied
        exact ⟨congrArg (· :: _) (Option.some.inj found).symm, last⟩
    · rintro ⟨rfl, rfl⟩
      exact .takes (congrArg Prod.fst taken) ((ih left).2 ⟨rfl, last.symm⟩)

end Poller

/-- Whatever is done with a new queue and its clock, what was given out since the latest clear and
what is in the queue are the messages put since then, in their order. The counters tell how many
messages were ever put, which never grows less, and what the clock showed at the latest put, if there
was one. To take the last message from a poller is to take messages one by one until there is none,
and gives the last of these. -/
theorem queue_goes_by_the_book {ω φ : Type} (clock : Calendar.Instant) (uses : List Queue.Use)
    (p : Poller ω φ) :
    let l := (Ledger.new clock).run uses
    l.lines.map (·.use) = uses.reverse ∧
    Ledger.gifts (Ledger.sinceClear l.lines) ++ l.queue.messages =
      Ledger.puts (Ledger.sinceClear l.lines) ∧
    l.queue.stats.totalMessages = (Ledger.puts l.lines).length ∧
    (∀ more, l.queue.stats.totalMessages ≤ (l.run more).queue.stats.totalMessages) ∧
    l.queue.stats.lastMessageTime = l.latestPut?.map (·.clock) ∧
    (l.queue.stats.lastMessageTime = none ↔ Ledger.puts l.lines = []) ∧
    (∃ ms q, p.Emptied ms q) ∧
    ∀ ms q, p.Emptied ms q → p.getLastMessage = (ms.getLast?, q) := by
  intro l
  have balanced : l.Balanced := (Ledger.balanced_new clock).run uses
  have book : l.lines.map (·.use) = uses.reverse :=
    ((Ledger.new clock).lines_run uses).trans (List.append_nil _)
  refine ⟨book, balanced.messages, balanced.total, fun more => ?_, balanced.latest, ?_,
    ⟨_, _, Poller.emptied_iff.2 ⟨rfl, rfl⟩⟩, fun ms q emptied => ?_⟩
  · rw [balanced.total, (balanced.run more).total]
    exact Ledger.length_puts_le (l.lines_suffix more)
  · rw [balanced.latest, Option.map_eq_none_iff]
    exact l.latestPut?_eq_none_iff
  · obtain ⟨rfl, rfl⟩ := Poller.emptied_iff.1 emptied
    rfl

/-- Two messages, of which one is taken and one is lost to a clear, and two more while the clock goes
back. A poller with the last two gives them one by one. -/
theorem queue_goes_by_the_book_cleared :
    let m := Poller.plainMessage
    let l := (Ledger.new ⟨60, 0⟩).run [.put (m "1"), .put (m "2"), .get, .clear, .put (m "3"),
      .setClock ⟨50, 0⟩, .put (m "4"), .get]
    let p : Poller Unit Unit := (Poller.new ⟨[]⟩ .default () ⟨60, 0⟩).modify fun s =>
      { s with queue := (s.queue.put s.clock (m "3")).put s.clock (m "4") }
    Ledger.gifts (Ledger.sinceClear l.lines) = [m "3"] ∧ l.queue.messages = [m "4"] ∧
      l.queue.stats.totalMessages = 4 ∧ l.queue.stats.lastMessageTime = some ⟨50, 0⟩ ∧
      p.Emptied [m "3", m "4"] p.getLastMessage.2 ∧ p.getLastMessage.1 = some (m "4") := by
  intro m l p
  obtain ⟨-, conserved, total, -, latest, -, -, last⟩ := queue_goes_by_the_book ⟨60, 0⟩
    [.put (m "1"), .put (m "2"), .get, .clear, .put (m "3"), .setClock ⟨50, 0⟩, .put (m "4"), .get] p
  have emptied : p.Emptied [m "3", m "4"] _ := .takes rfl (.takes rfl (.done rfl))
  have taken := last _ _ emptied
  have conserved : [m "3"] ++ l.queue.messages = [m "3"] ++ [m "4"] := conserved
  exact ⟨rfl, List.append_cancel_left conserved, total, latest, taken ▸ emptied,
    congrArg Prod.fst taken⟩

end MailRound
