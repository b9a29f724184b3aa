import MailRound.Poller.Timeline

namespace MailRound.Program

variable {ω φ : Type}

def note (p : Poller ω φ) (text : String) : Poller ω φ :=
  p.modify (·.note .program .info text)

def announce (p : Poller ω φ) (m : Message) : Poller ω φ :=
  note p ("New message " ++ m.id ++ " from " ++ m.sender.getD "<unknown>" ++ " : " ++
    m.subject.getD "<no subject>")

def drain (p : Poller ω φ) : List Message × Poller ω φ :=
  let (messages, p) := p.drain
  (messages, messages.foldl announce p)

/-- How far a loop has come: whether it has ended by itself, what it has told, and the poller. -/
structure Told (ω φ : Type) where
  ended : Bool
  messages : List Message
  poller : Poller ω φ

/-- Waits for the selected account, with a look into the queue each time the limit has passed. -/
def waitOut (m : Mailboxes ω φ) (limit : Nat) : Nat → Poller ω φ → Told ω φ
  | 0, p => ⟨false, [], p⟩
  | rounds + 1, p =>
    match p.wait m limit with
    | (true, p) => ⟨true, [], p⟩
    | (false, p) =>
      let (messages, p) := drain p
      let rest := waitOut m limit rounds (if limit = 0 then p.sleep m 1 else p)
      { rest with messages := messages ++ rest.messages }

def announceAccount (p : Poller ω φ) : Poller ω φ :=
  match p.shared.cursor.current? with
  | some account => note p ("Processing account " ++ account.id ++ " (" ++
      account.displayEmail ++ ")")
  | none => p

/-- Polls the selected account and all that follow it. -/
def pollAll (m : Mailboxes ω φ) (limit rounds : Nat) : Nat → Poller ω φ → Told ω φ
  | 0, p => ⟨false, [], p⟩
  | turns + 1, p =>
    let waited := waitOut m limit rounds (announceAccount p)
    let (messages, p) := drain waited.poller
    match p.next with
    | (true, p) =>
      let rest := pollAll m limit rounds turns p
      ⟨waited.ended && rest.ended, waited.messages ++ messages ++ rest.messages, rest.poller⟩
    | (false, p) => ⟨waited.ended, waited.messages ++ messages, p⟩

end MailRound.Program
