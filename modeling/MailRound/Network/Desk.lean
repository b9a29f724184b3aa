import MailRound.Network.Basic

namespace MailRound

inductive Exchange where
  | web (request : Web.Request) (answer : Web.Answer)
  | imap (command : Imap.Command) (answer : Imap.Answer)
  deriving DecidableEq, Repr

structure Desk (ω : Type) where
  world : ω
  log : List Log.Event
  exchanges : List Exchange

def Desk.new (world : ω) : Desk ω := ⟨world, [], []⟩

/-- Work at a desk that may fail; what was noted and exchanged stays. -/
abbrev Errand (ω : Type) := ExceptT Failure (StateM (Desk ω))

namespace Desk

variable {ω : Type}

def note (events : List Log.Event) : StateM (Desk ω) Unit :=
  modify fun d => { d with log := d.log ++ events }

def ask (net : Network ω) (client : Web.Client) (request : Web.Request) :
    StateM (Desk ω) Web.Answer := fun d =>
  let (answer, world) := net.ask d.world client request
  (answer, { d with world := world, exchanges := d.exchanges ++ [.web request answer] })

def tell (net : Network ω) (line : Nat) (command : Imap.Command) : StateM (Desk ω) Imap.Answer :=
  fun d =>
    let (answer, world) := net.tell d.world line command
    (answer, { d with world := world, exchanges := d.exchanges ++ [.imap command answer] })

def dial (net : Network ω) (server : String) (port : Nat) :
    StateM (Desk ω) (Except DialFault Nat) := fun d =>
  let (line, world) := net.dial d.world server port
  (line, { d with world := world })

def send (net : Network ω) (client : Web.Client) :
    Except Web.Fault Web.Request → StateM (Desk ω) (Except Web.Fault Web.Reply)
  | .error fault => pure (.error fault)
  | .ok request => do
    let answer ← ask net client request
    return answer.toReply request

end Desk

namespace Errand

variable {ω : Type} {α ε : Type}

def note (origin : Log.Origin) (level : Log.Level) (text : String) : Errand ω Unit :=
  ExceptT.lift (Desk.note [⟨level, origin, text⟩])

def require (why : ε → Failure) : Except ε α → Errand ω α
  | .ok a => pure a
  | .error e => throw (why e)

end Errand

end MailRound
