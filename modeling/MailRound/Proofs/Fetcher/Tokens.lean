import MailRound.Fetcher.Basic
import MailRound.Proofs.Fetcher.Errands
import MailRound.Proofs.Web.Address
import Mathlib.Tactic.SplitIfs

namespace MailRound

variable {ω : Type} {net : Network ω} {client : Web.Client}

/-- How a connection comes to its token. -/
inductive TokenSource where
  | given (token : String)
  | asked (url : String) (grant : Token.Grant)

namespace TokenSource

def Asks : TokenSource → Exchange → Prop
  | .given _, _ => False
  | .asked url grant, e => ∃ request answer,
    Token.formRequest url grant.form = .ok request ∧ e = .web request answer

/-- With these exchanges a token is had: without any if it was given, else with the one for it,
whose answer holds it. -/
def Grants : TokenSource → List Exchange → String → Prop
  | .given own, sent, token => sent = [] ∧ token = own
  | .asked url grant, sent, token => ∃ request answer reply t,
    Token.formRequest url grant.form = .ok request ∧ sent = [.web request answer] ∧
      Web.Answer.toReply request answer = .ok reply ∧ Web.Status.isSuccess reply.status = true ∧
      reply.read Token.reader = .ok t ∧ token = t.accessToken

theorem Grants.asks {source : TokenSource} {sent : List Exchange} {token : String}
    (granted : source.Grants sent token) : ∀ e ∈ sent, source.Asks e := by
  cases source with
  | given own =>
    obtain ⟨rfl, -⟩ := granted
    exact List.forall_mem_nil _
  | asked url grant =>
    obtain ⟨request, answer, reply, t, made, rfl, -⟩ := granted
    exact List.forall_mem_singleton.2 ⟨request, answer, made, rfl⟩

end TokenSource

def GmailConfig.source (c : GmailConfig) : TokenSource :=
  match c.auth with
  | .provided token => .given token
  | .refresh clientId clientSecret refreshToken =>
    .asked Token.googleUrl (.refresh clientId (some clientSecret) refreshToken none)

def GraphConfig.source (c : GraphConfig) : TokenSource :=
  let scope := " ".intercalate c.scopes
  let clientId := c.clientId.getD ""
  match c.auth with
  | .provided token => .given token
  | .tenant tenantId clientSecret =>
    .asked (Token.tenantUrl tenantId) (.client clientId clientSecret scope)
  | .personal refreshToken =>
    .asked Token.consumersUrl (.refresh clientId none refreshToken (some scope))

theorem Token.adds_obtain (url : String) (grant : Grant) :
    Adds (obtain net client url grant).run fun sent r =>
      (∀ e ∈ sent, (TokenSource.asked url grant).Asks e) ∧
        ∀ t, r = .ok t → (TokenSource.asked url grant).Grants sent t.accessToken := by
  have asked : Adds (Desk.send net client (formRequest url grant.form)) fun sent r =>
      (∀ e ∈ sent, (TokenSource.asked url grant).Asks e) ∧ ∀ reply, r = .ok reply →
        ∃ request answer, formRequest url grant.form = .ok request ∧
          sent = [.web request answer] ∧ answer.toReply request = .ok reply :=
    Adds.send (fun fault _ => ⟨List.forall_mem_nil _, nofun⟩) fun request answer made =>
      ⟨List.forall_mem_singleton.2 ⟨request, answer, made, rfl⟩,
        fun reply replied => ⟨request, answer, made, rfl, replied⟩⟩
  unfold obtain request
  -- The one exchange is made; from here on its answer is only read.
  refine asked.liftThen fun sent r ⟨asks, answered⟩ => ?_
  refine Adds.requireThen (fun fault _ => ?_) fun reply replied => ?_
  · rw [List.append_nil]
    exact ⟨asks, nofun⟩
  · obtain ⟨request, answer, made, alone, replied⟩ := answered reply replied
    split_ifs with accepted
    · refine Adds.require (fun fault _ => ?_) fun t read => ?_
      · rw [List.append_nil]
        exact ⟨asks, nofun⟩
      · rw [List.append_nil]
        refine ⟨asks, fun t' same => ?_⟩
        obtain rfl := Except.ok.inj same
        exact ⟨request, answer, reply, t, made, alone, replied, accepted, read, rfl⟩
    · refine Adds.noteThen (Adds.pure ?_)
      rw [List.append_nil]
      exact ⟨asks, nofun⟩

/-- How it goes to open a connection: nothing but the token is asked for, and a connection that is
had holds the token that was granted. -/
def TokenSource.Opens (source : TokenSource) (sent : List Exchange) (r : Outcome Connection) :
    Prop :=
  (∀ e ∈ sent, source.Asks e) ∧ ∀ c, r = .ok c → source.Grants sent c.token

theorem TokenSource.opens_error (source : TokenSource) (why : Failure) :
    source.Opens [] (.error why) :=
  ⟨List.forall_mem_nil _, nofun⟩

theorem TokenSource.opens_given (own : String) :
    (given own).Opens [] (.ok ⟨client, own⟩) :=
  ⟨List.forall_mem_nil _, fun _ same => Except.ok.inj same ▸ ⟨rfl, rfl⟩⟩

theorem Errand.adds_client (proxy : Option String) :
    Adds (Errand.client proxy : Errand ω Web.Client).run fun sent _ => sent = [] := by
  unfold Errand.client
  refine Adds.liftThen (P := fun sent _ => sent = []) (Adds.note rfl) fun sent _ none => ?_
  subst none
  exact Adds.require (fun _ _ => rfl) fun _ _ => rfl

theorem Token.opens_obtain (url : String) (grant : Grant) :
    Adds (do
      let token ← obtain net client url grant
      return (⟨client, token.accessToken⟩ : Connection)).run
      (TokenSource.asked url grant).Opens := by
  refine (Token.adds_obtain url grant).andThen (fun sent why ⟨asks, _⟩ => ⟨asks, nofun⟩) ?_
  rintro sent t ⟨asks, granted⟩
  refine Adds.pure ?_
  rw [List.append_nil]
  exact ⟨asks, fun c same => Except.ok.inj same ▸ granted t rfl⟩

theorem GmailFetcher.opens (config : GmailConfig) :
    Adds (openConnection net config).run config.source.Opens := by
  unfold openConnection GmailConfig.source
  refine (Errand.adds_client config.proxy).andThen (fun sent why none => ?_)
    fun sent client none => ?_
  · subst none
    exact TokenSource.opens_error _ why
  · subst none
    cases config.auth with
    | provided token => exact Adds.pure (TokenSource.opens_given token)
    | refresh clientId clientSecret refreshToken =>
      exact Adds.noteThen (Token.opens_obtain _ _)

theorem GraphFetcher.opens (config : GraphConfig) :
    Adds (openConnection net config).run config.source.Opens := by
  unfold openConnection GraphConfig.source
  refine (Errand.adds_client config.proxy).andThen (fun sent why none => ?_)
    fun sent client none => ?_
  · subst none
    exact TokenSource.opens_error _ why
  · subst none
    cases config.auth with
    | provided token => exact Adds.noteThen (Adds.pure (TokenSource.opens_given token))
    | tenant tenantId clientSecret => exact Adds.noteThen (Token.opens_obtain _ _)
    | personal refreshToken => exact Adds.noteThen (Token.opens_obtain _ _)

/-- How it goes to connect: the fetcher stays as it was if that fails, else it holds the new
connection. -/
def TokenSource.Reconnects {φ : Type} (source : TokenSource) (old : φ) (new : Connection → φ)
    (sent : List Exchange) (r : Outcome Unit × φ) : Prop :=
  (∃ why, r = (.error why, old) ∧ ∀ e ∈ sent, source.Asks e) ∨
    ∃ c, r = (.ok (), new c) ∧ source.Grants sent c.token

theorem TokenSource.reconnects_of_opens {φ : Type} {source : TokenSource}
    {opening : Errand ω Connection} (opens : Adds opening.run source.Opens) (old : φ)
    (new : Connection → φ) :
    Adds (do
      match ← opening.run with
      | .ok c => return (.ok (), new c)
      | .error why => return (.error why, old)) (source.Reconnects old new) := by
  refine opens.bind fun sent r ⟨asks, granted⟩ => ?_
  cases r with
  | ok c => exact Adds.pure (.inr ⟨c, rfl, (List.append_nil sent).symm ▸ granted c rfl⟩)
  | error why => exact Adds.pure (.inl ⟨why, rfl, (List.append_nil sent).symm ▸ asks⟩)

theorem TokenSource.reconnects_wrap {φ ψ : Type} {source : TokenSource} {old : φ}
    {new : Connection → φ} {x : StateM (Desk ω) (Outcome Unit × φ)}
    (reconnects : Adds x (source.Reconnects old new)) (wrap : φ → ψ) :
    Adds (do
      let (result, f) ← x
      return (result, wrap f)) (source.Reconnects (wrap old) fun c => wrap (new c)) := by
  refine Adds.bind reconnects fun sent r reconnects => Adds.pure ?_
  rw [List.append_nil]
  obtain ⟨why, rfl, asks⟩ | ⟨c, rfl, granted⟩ := reconnects
  · exact .inl ⟨why, rfl, asks⟩
  · exact .inr ⟨c, rfl, granted⟩

/-- A request that shows the token. -/
def Exchange.Carries (token : String) : Exchange → Prop
  | .web request _ => request.authorization = some ("Bearer " ++ token)
  | .imap _ _ => False

namespace Connection

variable (c : Connection)

theorem sends_send (method : Web.Method) (address : String) (extras : Web.Extras) :
    Sends (Exchange.Carries c.token) (c.send net method address extras) :=
  Sends.send fun _ _ made => Web.Request.authorization_of_make made

end Connection

namespace GmailFetcher

variable (config : GmailConfig) (c : Connection)

theorem sends_listing (criteria : Criteria) :
    Sends (Exchange.Carries c.token) (listing net c criteria).run :=
  Sends.liftThen (c.sends_send _ _ _) fun _ => Sends.requireThen fun _ _ =>
    Sends.requireThen fun _ _ => Sends.pure _

theorem sends_getEach (ids : List String) :
    Sends (Exchange.Carries c.token) (getEach net config c ids) := by
  induction ids with
  | nil => exact Sends.pure []
  | cons id ids ih =>
    refine ((c.sends_send _ _ _).bind fun _ => Sends.pure _).bind fun outcome => ?_
    cases outcome with
    | ok message => exact ih.bind fun _ => Sends.pure _
    | error why => exact (Sends.note _).bind fun _ => ih

theorem sends_fetch (criteria : Criteria) : Sends (Exchange.Carries c.token)
    (fetch net ⟨config, some c.client, some c.token⟩ criteria).run := by
  simp only [fetch, connected, pure_bind]
  refine (sends_listing c criteria).andThen fun ids => ?_
  split_ifs
  · exact Sends.noteThen (Sends.pure _)
  · exact Sends.noteThen (Sends.lift (sends_getEach config c ids))

theorem sends_markRead (ids : List String) : Sends (Exchange.Carries c.token)
    (markRead net ⟨config, some c.client, some c.token⟩ ids).run := by
  simp only [markRead, connected, pure_bind]
  split_ifs
  · exact Sends.pure _
  · refine Sends.liftThen (c.sends_send _ _ _) fun sent => ?_
    split
    · exact Sends.lift (Sends.note _)
    · exact Sends.noteThen (Sends.pure _)

end GmailFetcher

namespace GraphFetcher

variable (config : GraphConfig) (c : Connection)

theorem sends_fetch (criteria : Criteria) : Sends (Exchange.Carries c.token)
    (fetch net ⟨config, some c.client, some c.token⟩ criteria).run := by
  simp only [fetch, connected, pure_bind]
  refine Sends.requireThen fun path _ => Sends.noteThen ?_
  refine Sends.liftThen (c.sends_send _ _ _) fun _ => Sends.requireThen fun reply _ => ?_
  split_ifs
  · exact Sends.pure _
  · refine Sends.requireThen fun list _ => ?_
    split_ifs
    · exact Sends.noteThen (Sends.pure _)
    · exact Sends.noteThen (Sends.pure _)

theorem sends_markEach (path : String) (ids : List String) :
    Sends (Exchange.Carries c.token) (markEach net c path ids) := by
  induction ids with
  | nil => exact Sends.pure ()
  | cons id ids ih =>
    refine Sends.bind ((c.sends_send _ _ _).bind fun sent => ?_) fun _ => ih
    split
    · exact Sends.note _
    · exact Sends.note _

theorem sends_markRead (ids : List String) : Sends (Exchange.Carries c.token)
    (markRead net ⟨config, some c.client, some c.token⟩ ids).run := by
  simp only [markRead, connected, pure_bind]
  exact Sends.requireThen fun path _ => Sends.lift (sends_markEach c path ids)

end GraphFetcher

end MailRound
