import MailRound.Proofs.Fetcher.Credentials
import MailRound.Proofs.Fetcher.Tokens

namespace MailRound

variable {ω : Type} {net : Network ω}

inductive Task where
  | connect
  | fetch (criteria : Criteria)
  | markRead (ids : List String)
  | disconnect

def Task.OnMailbox : Task → Prop
  | .fetch _ => True
  | .markRead _ => True
  | _ => False

/-- A task that was done: how that ended, and what was exchanged. -/
structure Visit where
  task : Task
  outcome : Outcome Unit
  sent : List Exchange

def Visit.Connected (v : Visit) : Prop := v.task = .connect ∧ v.outcome = .ok ()

namespace Fetcher

def perform (net : Network ω) (f : Fetcher) : Task → StateM (Desk ω) (Outcome Unit × Fetcher)
  | .connect => f.connect net
  | .fetch criteria => do
    let result ← (f.fetch net criteria).run
    return (Outcome.bare result, f)
  | .markRead ids => do
    let result ← (f.markRead net ids).run
    return (result, f)
  | .disconnect => do
    let f ← f.disconnect net
    return (.ok (), f)

def visit (net : Network ω) (f : Fetcher) (task : Task) (d : Desk ω) : Visit :=
  let ((outcome, _), d') := (f.perform net task).run d
  ⟨task, outcome, d'.exchanges.drop d.exchanges.length⟩

def next (net : Network ω) (f : Fetcher) (task : Task) (d : Desk ω) : Fetcher :=
  ((f.perform net task).run d).1.2

def disconnects (net : Network ω) (f : Fetcher) : Nat → StateM (Desk ω) Fetcher
  | 0 => return f
  | n + 1 => do
    let f ← f.disconnect net
    f.disconnects net n

def client? : Fetcher → Option Web.Client
  | .imap _ => none
  | .gmail f => f.client
  | .graph f => f.client

def token? : Fetcher → Option String
  | .imap _ => none
  | .gmail f => f.token
  | .graph f => f.token

end Fetcher

/-- The mailboxes that are worked with over the web. -/
inductive WebMailbox where
  | gmail (config : GmailConfig)
  | graph (config : GraphConfig)

namespace WebMailbox

def config : WebMailbox → FetcherConfig
  | .gmail c => .gmail c
  | .graph c => .graph c

def source : WebMailbox → TokenSource
  | .gmail c => c.source
  | .graph c => c.source

def userless : WebMailbox → Bool
  | .gmail _ => false
  | .graph c => match c.auth with
    | .tenant _ _ => c.user.isNone
    | _ => false

/-- The fetcher of a mailbox with a connection or without. -/
def holding : WebMailbox → Option Connection → Fetcher
  | .gmail c, held => .gmail ⟨c, held.map (·.client), held.map (·.token)⟩
  | .graph c, held => .graph ⟨c, held.map (·.client), held.map (·.token)⟩

theorem ofConfig_config (m : WebMailbox) : Fetcher.ofConfig m.config = m.holding none := by
  cases m <;> rfl

@[simp] theorem client?_holding (m : WebMailbox) (held : Option Connection) :
    (m.holding held).client? = held.map (·.client) := by
  cases m <;> rfl

@[simp] theorem token?_holding (m : WebMailbox) (held : Option Connection) :
    (m.holding held).token? = held.map (·.token) := by
  cases m <;> rfl

/-- Why nothing is done without a connection. -/
def refusal (m : WebMailbox) : Failure :=
  if m.userless then
    .config "outlook_graph tenant mode requires user_principal_name or email_address"
  else
    match m with
    | .gmail _ => .connection "Not connected to Gmail API."
    | .graph _ => .connection "Not connected to Microsoft Graph."

/-- What a task does to the connection that the fetcher of a mailbox holds. -/
inductive Turn (m : WebMailbox) (held : Option Connection) : Visit → Option Connection → Prop
  | connects {sent : List Exchange} {c : Connection} (granted : m.source.Grants sent c.token) :
      Turn m held ⟨.connect, .ok (), sent⟩ (some c)
  | fails {sent : List Exchange} {why : Failure} (asks : ∀ e ∈ sent, m.source.Asks e) :
      Turn m held ⟨.connect, .error why, sent⟩ held
  | works {task : Task} {outcome : Outcome Unit} {sent : List Exchange} (reads : task.OnMailbox)
      (c : Connection) (here : held = some c) (carried : ∀ e ∈ sent, e.Carries c.token) :
      Turn m held ⟨task, outcome, sent⟩ held
  | refuses {task : Task} {outcome : Outcome Unit} (reads : task.OnMailbox) (absent : held = none)
      (refused : task ≠ .markRead [] → outcome = .error m.refusal) :
      Turn m held ⟨task, outcome, []⟩ held
  | leaves : Turn m held ⟨.disconnect, .ok (), []⟩ none

def Fits (m : WebMailbox) (held : Option Connection) (task : Task) (sent : List Exchange)
    (r : Outcome Unit × Fetcher) : Prop :=
  ∃ held', r.2 = m.holding held' ∧ m.Turn held ⟨task, r.1, sent⟩ held'

variable (m : WebMailbox) (held : Option Connection)

theorem reconnects : Adds ((m.holding held).connect net)
    (m.source.Reconnects (m.holding held) fun c => m.holding (some c)) := by
  cases m with
  | gmail config =>
    exact TokenSource.reconnects_wrap
      (TokenSource.reconnects_of_opens (GmailFetcher.opens config) _ _) Fetcher.gmail
  | graph config =>
    exact TokenSource.reconnects_wrap
      (TokenSource.reconnects_of_opens (GraphFetcher.opens config) _ _) Fetcher.graph

theorem sends_fetch (c : Connection) (criteria : Criteria) :
    Sends (Exchange.Carries c.token) ((m.holding (some c)).fetch net criteria).run := by
  cases m with
  | gmail config => exact GmailFetcher.sends_fetch config c criteria
  | graph config => exact GraphFetcher.sends_fetch config c criteria

theorem sends_markRead (c : Connection) (ids : List String) :
    Sends (Exchange.Carries c.token) ((m.holding (some c)).markRead net ids).run := by
  cases m with
  | gmail config => exact GmailFetcher.sends_markRead config c ids
  | graph config => exact GraphFetcher.sends_markRead config c ids

theorem fetch_unconnected (criteria : Criteria) :
    (m.holding none).fetch net criteria = (throw m.refusal : Errand ω (List Message)) := by
  cases m with
  | gmail config => rfl
  | graph config =>
    obtain ⟨client, auth, user, scopes, account, proxy⟩ := config
    cases auth <;> cases user <;> rfl

theorem markRead_unconnected {ids : List String} (some : ids ≠ []) :
    (m.holding none).markRead net ids = (throw m.refusal : Errand ω Unit) := by
  cases m with
  | gmail config =>
    cases ids with
    | nil => cases some rfl
    | cons id ids => rfl
  | graph config =>
    obtain ⟨client, auth, user, scopes, account, proxy⟩ := config
    cases auth <;> cases user <;> rfl

theorem markRead_nil_unconnected :
    Sends (fun _ => False) ((m.holding none).markRead net []).run := by
  cases m with
  | gmail config => exact Sends.pure _
  | graph config =>
    obtain ⟨client, auth, user, scopes, account, proxy⟩ := config
    cases auth <;> cases user <;> exact Sends.pure _

theorem fits_connect : Adds ((m.holding held).perform net .connect) (m.Fits held .connect) := by
  refine (m.reconnects held).mono fun sent r => ?_
  rintro (⟨why, rfl, asks⟩ | ⟨c, rfl, granted⟩)
  · exact ⟨held, rfl, .fails asks⟩
  · exact ⟨some c, rfl, .connects granted⟩

theorem fits_fetch (criteria : Criteria) :
    Adds ((m.holding held).perform net (.fetch criteria)) (m.Fits held (.fetch criteria)) := by
  cases held with
  | none =>
    dsimp only [Fetcher.perform]
    rw [fetch_unconnected]
    exact Adds.pure ⟨none, rfl, .refuses trivial rfl fun _ => rfl⟩
  | some c =>
    refine Adds.bind (m.sends_fetch c criteria) fun sent r carried => Adds.pure ?_
    rw [List.append_nil]
    exact ⟨some c, rfl, .works trivial c rfl carried⟩

theorem fits_markRead (ids : List String) :
    Adds ((m.holding held).perform net (.markRead ids)) (m.Fits held (.markRead ids)) := by
  cases held with
  | none =>
    -- Without ids one kind of fetcher succeeds, the other has looked for its connection before.
    by_cases empty : ids = []
    · subst empty
      refine Adds.bind m.markRead_nil_unconnected fun sent r none => Adds.pure ?_
      obtain rfl := List.eq_nil_iff_forall_not_mem.2 none
      exact ⟨_, rfl, .refuses trivial rfl fun other => absurd rfl other⟩
    · dsimp only [Fetcher.perform]
      rw [m.markRead_unconnected empty]
      exact Adds.pure ⟨none, rfl, .refuses trivial rfl fun _ => rfl⟩
  | some c =>
    refine Adds.bind (m.sends_markRead c ids) fun sent r carried => Adds.pure ?_
    rw [List.append_nil]
    exact ⟨some c, rfl, .works trivial c rfl carried⟩

theorem fits_disconnect :
    Adds ((m.holding held).perform net .disconnect) (m.Fits held .disconnect) := by
  cases m with
  | gmail config => exact Adds.pure ⟨none, rfl, .leaves⟩
  | graph config => exact Adds.pure ⟨none, rfl, .leaves⟩

theorem fits (task : Task) : Adds ((m.holding held).perform net task) (m.Fits held task) := by
  cases task with
  | connect => exact m.fits_connect held
  | fetch criteria => exact m.fits_fetch held criteria
  | markRead ids => exact m.fits_markRead held ids
  | disconnect => exact m.fits_disconnect held

/-- One task: the fetcher goes on with a connection that fits. -/
theorem turns (net : Network ω) (task : Task) (d : Desk ω) : ∃ held',
    (m.holding held).next net task d = m.holding held' ∧
      m.Turn held ((m.holding held).visit net task d) held' :=
  (m.fits held task).drop d

/-- What the fetcher of a mailbox goes through, the last task first. The desk may be any each time,
with any world outside. -/
inductive Session (net : Network ω) (m : WebMailbox) : Fetcher → List Visit → Prop
  | new : Session net m (.ofConfig m.config) []
  | goesOn {f : Fetcher} {visits : List Visit} (past : Session net m f visits) (task : Task)
      (d : Desk ω) : Session net m (f.next net task d) (f.visit net task d :: visits)

/-- The connection that is held is the one of the connect that succeeded last, unless the fetcher
has disconnected since. -/
def Stands (m : WebMailbox) (visits : List Visit) : Option Connection → Prop
  | none => ∀ later v earlier, visits = later ++ v :: earlier → v.Connected →
    ∃ w ∈ later, w.task = .disconnect
  | some c => ∃ later v earlier, visits = later ++ v :: earlier ∧ v.Connected ∧
    m.source.Grants v.sent c.token ∧ ∀ w ∈ later, w.task ≠ .disconnect ∧ ¬w.Connected

variable {m held} {f : Fetcher} {visits : List Visit} {v : Visit}

theorem Stands.quiet (stands : m.Stands visits held) (stays : v.task ≠ .disconnect)
    (idle : ¬v.Connected) : m.Stands (v :: visits) held := by
  cases held with
  | none =>
    -- A connect that succeeded is not the new visit, so it was followed by a disconnect before.
    rintro (_ | ⟨w, later⟩) u earlier same connected
    · obtain ⟨rfl, -⟩ := List.cons.inj same
      exact absurd connected idle
    · obtain ⟨rfl, rest⟩ := List.cons.inj same
      obtain ⟨w, among, left⟩ := stands later u earlier rest connected
      exact ⟨w, List.mem_cons_of_mem _ among, left⟩
  | some c =>
    obtain ⟨later, u, earlier, rfl, connected, granted, since⟩ := stands
    exact ⟨v :: later, u, earlier, rfl, connected, granted,
      List.forall_mem_cons.2 ⟨⟨stays, idle⟩, since⟩⟩

theorem Turn.stands {held' : Option Connection} (turn : m.Turn held v held')
    (stands : m.Stands visits held) : m.Stands (v :: visits) held' := by
  cases turn with
  | connects granted => exact ⟨[], _, visits, rfl, ⟨rfl, rfl⟩, granted, List.forall_mem_nil _⟩
  | fails asks => exact stands.quiet nofun nofun
  | works reads c here carried =>
    exact stands.quiet (by rintro rfl; exact reads) (by rintro ⟨rfl, -⟩; exact reads)
  | refuses reads absent refused =>
    exact stands.quiet (by rintro rfl; exact reads) (by rintro ⟨rfl, -⟩; exact reads)
  | leaves =>
    rintro (_ | ⟨w, later⟩) u earlier same connected
    · obtain ⟨rfl, -⟩ := List.cons.inj same
      cases connected.1
    · obtain ⟨rfl, -⟩ := List.cons.inj same
      exact ⟨_, List.mem_cons_self, rfl⟩

/-- In a session a fetcher holds a connection that stands, or none. -/
theorem Session.stands (session : m.Session net f visits) :
    ∃ held, f = m.holding held ∧ m.Stands visits held := by
  -- By induction over the session; every turn carries the invariant on.
  induction session with
  | new => exact ⟨none, m.ofConfig_config, fun _ _ _ same => by simp at same⟩
  | goesOn past task d ih =>
    obtain ⟨held, rfl, stands⟩ := ih
    obtain ⟨held', now, turn⟩ := m.turns held net task d
    exact ⟨held', now, turn.stands stands⟩

section

variable {held' : Option Connection} (turn : m.Turn held v held')
include turn

theorem Turn.eq_of_failed {why : Failure} (connect : v.task = .connect)
    (failed : v.outcome = .error why) : held' = held := by
  cases turn with
  | connects granted => cases failed
  | fails asks => rfl
  | works | refuses => rfl
  | leaves => cases connect

theorem Turn.asks (connect : v.task = .connect) : ∀ e ∈ v.sent, m.source.Asks e := by
  cases turn with
  | connects granted => exact granted.asks
  | fails asks => exact asks
  | works reads =>
    subst connect
    exact reads.elim
  | refuses => exact List.forall_mem_nil _
  | leaves => exact List.forall_mem_nil _

/-- Only a connection that is held makes requests besides those for tokens. -/
theorem Turn.carried (other : v.task ≠ .connect) {e : Exchange} (among : e ∈ v.sent) :
    ∃ c, held = some c ∧ e.Carries c.token := by
  cases turn with
  | connects | fails => exact absurd rfl other
  | works reads c here carried => exact ⟨c, here, carried e among⟩
  | refuses | leaves => cases among

theorem Turn.refused (absent : held = none) (reads : v.task.OnMailbox)
    (some : v.task ≠ .markRead []) :
    v.outcome = .error m.refusal := by
  cases turn with
  | connects | fails | leaves => exact reads.elim
  | works _ c here =>
    rw [absent] at here
    cases here
  | refuses _ _ refused => exact refused some

end

theorem refusal_eq (m : WebMailbox) : ∃ text,
    m.refusal = if m.userless then .config text else .connection text := by
  unfold refusal
  split_ifs
  · exact ⟨_, rfl⟩
  · cases m <;> exact ⟨_, rfl⟩

theorem disconnect_holding (m : WebMailbox) (held : Option Connection) :
    (m.holding held).disconnect net = (pure (m.holding none) : StateM (Desk ω) Fetcher) := by
  cases m <;> rfl

theorem disconnects_holding (held : Option Connection) (n : Nat) :
    (m.holding held).disconnects net (n + 1) =
      (pure (m.holding none) : StateM (Desk ω) Fetcher) := by
  induction n generalizing held with
  | zero =>
    rw [Fetcher.disconnects, disconnect_holding, pure_bind]
    rfl
  | succ n ih => rw [Fetcher.disconnects, disconnect_holding, pure_bind, ih]

/-- The connect that succeeded last. -/
def LastConnected (visits : List Visit) (v : Visit) : Prop :=
  ∃ later earlier, visits = later ++ v :: earlier ∧ v.Connected ∧ ∀ w ∈ later, ¬w.Connected

/-- A fetcher over the web holds a client and a token together or neither of them. It holds them
exactly if a connect has succeeded since it last disconnected, and a connect that fails changes
nothing. Connects ask for nothing but a token. Without a connection nothing else is asked for
either, and what is about messages fails. With one, every request shows the token of the connect
that succeeded last. Disconnecting more than once is the same as disconnecting once. -/
theorem connection_life_cycle (session : m.Session net f visits) :
    (f.client?.isSome ↔ f.token?.isSome) ∧
    (f.token?.isSome ↔ ∃ later v earlier, visits = later ++ v :: earlier ∧ v.Connected ∧
      ∀ w ∈ later, w.task ≠ .disconnect) ∧
    (∀ d why, (f.visit net .connect d).outcome = .error why → f.next net .connect d = f) ∧
    (∀ d, ∀ e ∈ (f.visit net .connect d).sent, m.source.Asks e) ∧
    (f.token? = none → ∀ d,
      (∀ task, task ≠ .connect → (f.visit net task d).sent = []) ∧
      (∀ criteria, ∃ why, (f.visit net (.fetch criteria) d).outcome = .error why) ∧
      ∀ ids, ids ≠ [] → ∃ text, (f.visit net (.markRead ids) d).outcome =
        .error (if m.userless then .config text else .connection text)) ∧
    (∀ task d, task ≠ .connect → ∀ e ∈ (f.visit net task d).sent, ∃ v token,
      LastConnected visits v ∧ m.source.Grants v.sent token ∧ e.Carries token) ∧
    ∀ n d, (f.disconnects net (n + 1)).run d = (f.disconnect net).run d := by
  obtain ⟨held, rfl, stands⟩ := session.stands
  rw [client?_holding, token?_holding, Option.isSome_map, Option.isSome_map, Option.map_eq_none_iff]
  refine ⟨Iff.rfl, ?_, fun d why failed => ?_, fun d => ?_, ?_, fun task d other e among => ?_,
    fun n d => ?_⟩
  · cases held with
    | none =>
      refine iff_of_false nofun ?_
      rintro ⟨later, v, earlier, same, connected, stayed⟩
      obtain ⟨w, among, left⟩ := stands later v earlier same connected
      exact stayed w among left
    | some c =>
      obtain ⟨later, v, earlier, same, connected, -, since⟩ := stands
      exact iff_of_true rfl ⟨later, v, earlier, same, connected, fun w among => (since w among).1⟩
  · obtain ⟨held', now, turn⟩ := m.turns held net .connect d
    rw [now, turn.eq_of_failed rfl failed]
  · obtain ⟨held', -, turn⟩ := m.turns held net .connect d
    exact turn.asks rfl
  · intro absent d
    refine ⟨fun task other => List.eq_nil_iff_forall_not_mem.2 fun e among => ?_,
      fun criteria => ?_, fun ids some => ?_⟩
    · obtain ⟨held', -, turn⟩ := m.turns held net task d
      obtain ⟨c, here, -⟩ := turn.carried other among
      rw [absent] at here
      cases here
    · obtain ⟨held', -, turn⟩ := m.turns held net (.fetch criteria) d
      exact ⟨_, turn.refused absent trivial nofun⟩
    · obtain ⟨held', -, turn⟩ := m.turns held net (.markRead ids) d
      obtain ⟨text, refusal⟩ := m.refusal_eq
      exact ⟨text, refusal ▸ turn.refused absent trivial fun same => some (Task.markRead.inj same)⟩
  · obtain ⟨held', -, turn⟩ := m.turns held net task d
    obtain ⟨c, rfl, carries⟩ := turn.carried other among
    obtain ⟨later, v, earlier, same, connected, granted, since⟩ := stands
    exact ⟨v, c.token, ⟨later, earlier, same, connected, fun w among => (since w among).2⟩, granted,
      carries⟩
  · rw [disconnects_holding, disconnect_holding]

theorem connection_life_cycle_given :
    let m : WebMailbox := .gmail ⟨.provided "t", none, none⟩
    let d : Desk Unit := .new ()
    let f := (Fetcher.ofConfig m.config).next Network.isolated .connect d
    f.client?.isSome ∧ (∀ e ∈ (f.visit Network.isolated (.markRead ["1"]) d).sent, e.Carries "t") ∧
      (f.disconnects Network.isolated 3).run d = (f.disconnect Network.isolated).run d := by
  intro m d f
  have session : m.Session Network.isolated f
      [(Fetcher.ofConfig m.config).visit Network.isolated .connect d] := .goesOn .new .connect d
  obtain ⟨both, -, -, -, -, shown, once⟩ := connection_life_cycle session
  refine ⟨both.2 rfl, fun e among => ?_, once 2 d⟩
  obtain ⟨v, token, -, ⟨-, own⟩, carries⟩ :=
    shown (.markRead ["1"]) d (fun other => by cases other) e among
  exact own ▸ carries

end WebMailbox

end MailRound
