import MailRound.Fetcher.Basic
import MailRound.Proofs.Fetcher.Port

namespace MailRound

variable {ms ms' : Json.Members} {key : String} {keys : List String} {p : Provider}
  {s : FetcherSettings} {α : Type}

namespace Json.Members

def Present (ms : Members) (key : String) : Prop :=
  ∃ t, t ≠ "" ∧ ms.get? key = some (.str t)

/-- There is no port, or a number that fits, written as a number or as a text. -/
def PortFits (ms : Members) : Prop :=
  match ms.get? "port" with
  | none => True
  | some .null => True
  | some (.int n) => 0 ≤ n ∧ n < 65536
  | some (.str t) => ∃ n < 65536, Text.Denotes t n
  | some _ => False

/-- What a fetcher asks of a key: it is there, and a port fits. -/
def Fine (ms : Members) (key : String) : Prop :=
  if key = "port" then ms.PortFits else ms.Present key

end Json.Members

open Json.Members

theorem FetcherSettings.text?_eq_some_iff {t : String} :
    s.text? key = some t ↔ t ≠ "" ∧ s.members.get? key = some (.str t) := by
  unfold text?
  rw [Option.filter_eq_some_iff, Option.bind_eq_some_iff]
  constructor
  · rintro ⟨⟨j, found, text⟩, there⟩
    cases j <;> cases text
    exact ⟨by simpa using there, found⟩
  · rintro ⟨there, found⟩
    exact ⟨⟨_, found, rfl⟩, by simpa using there⟩

theorem FetcherSettings.present_iff (s : FetcherSettings) (key : String) :
    s.members.Present key ↔ (s.text? key).isSome := by
  rw [Option.isSome_iff_exists]
  exact exists_congr fun t => text?_eq_some_iff.symm

theorem FetcherSettings.required_cases (s : FetcherSettings) (key : String) :
    (s.members.Present key ∧ ∃ v, s.required key = .ok v) ∨ (¬s.members.Present key ∧
      s.required key =
        .error (.config (s.provider.tag ++ " fetcher requires config." ++ key))) := by
  unfold Present required
  simp only [← text?_eq_some_iff]
  cases s.text? key with
  | none => exact .inr ⟨by simp, rfl⟩
  | some v => exact .inl ⟨⟨v, rfl⟩, v, rfl⟩

theorem FetcherSettings.portOr_cases (s : FetcherSettings) (default : Nat) :
    (s.members.PortFits ∧ ∃ n, s.portOr "port" default = .ok n) ∨
      (¬s.members.PortFits ∧ s.portOr "port" default = .error (s.invalid "port")) := by
  unfold PortFits
  cases found : s.members.get? "port" with
  | none => exact .inl ⟨trivial, _, by rw [portOr, found]⟩
  | some value =>
    cases value with
    | null => exact .inl ⟨trivial, _, by rw [portOr, found]⟩
    | int n =>
      rw [portOr, found]
      dsimp only
      split_ifs with fits
      · exact .inl ⟨fits, _, rfl⟩
      · exact .inr ⟨fits, rfl⟩
    | str t =>
      obtain ⟨n, fits, means, read⟩ | ⟨none, refused⟩ := portOr_text found default
      · exact .inl ⟨⟨n, fits, means⟩, n, read⟩
      · exact .inr ⟨fun ⟨n, fits, means⟩ => none n fits means, refused⟩
    | bool => exact .inr ⟨id, by rw [portOr, found]⟩
    | float => exact .inr ⟨id, by rw [portOr, found]⟩
    | arr => exact .inr ⟨id, by rw [portOr, found]⟩
    | obj => exact .inr ⟨id, by rw [portOr, found]⟩

instance : Decidable (ms.Present key) :=
  decidable_of_iff ((FetcherSettings.mk .imap ms).text? key).isSome <| by
    simp only [Option.isSome_iff_exists, FetcherSettings.text?_eq_some_iff, Present]

instance : Decidable ms.PortFits :=
  decidable_of_iff ((FetcherSettings.mk .imap ms).portOr "port" 0).isOk <| by
    obtain ⟨fits, n, read⟩ | ⟨unfit, refused⟩ := (FetcherSettings.mk .imap ms).portOr_cases 0
    · exact iff_of_true (by rw [read]; rfl) fits
    · exact iff_of_false (by simp [refused, Except.isOk, Except.toBool]) unfit

instance : Decidable (ms.Fine key) :=
  inferInstanceAs (Decidable (if key = "port" then _ else _))

def complaint (tag key : String) : String :=
  if key = "port" then tag ++ " fetcher: invalid config." ++ key
  else tag ++ " fetcher requires config." ++ key

/-- What looking at some keys in their order comes to: the first one that is not fine is named. -/
def verdict (tag : String) (ms : Json.Members) (keys : List String) : Outcome Unit :=
  match keys.find? fun key => ¬ms.Fine key with
  | none => .ok ()
  | some key => .error (.config (complaint tag key))

/-- How something comes out, without what is made of it. -/
def Outcome.bare (outcome : Outcome α) : Outcome Unit := outcome.map fun _ => ()

theorem Outcome.bare_map {β : Type} (f : α → β) (outcome : Outcome α) :
    Outcome.bare (outcome.map f) = outcome.bare := by
  cases outcome <;> rfl

theorem verdict_cons (tag : String) (ms : Json.Members) (key : String) (keys : List String) :
    verdict tag ms (key :: keys) =
      if ms.Fine key then verdict tag ms keys else .error (.config (complaint tag key)) := by
  unfold verdict
  split_ifs with fine
  · rw [List.find?_cons_of_neg (by simpa using fine)]
  · rw [List.find?_cons_of_pos (by simpa using fine)]

theorem bare_required_bind {f : String → Outcome α} (other : key ≠ "port")
    (next : ∀ v, (f v).bare = verdict s.provider.tag s.members keys) :
    Outcome.bare (s.required key >>= f) = verdict s.provider.tag s.members (key :: keys) := by
  have fine : s.members.Fine key ↔ s.members.Present key := by rw [Fine, if_neg other]
  rw [verdict_cons, complaint, if_neg other]
  obtain ⟨present, v, read⟩ | ⟨missing, refused⟩ := s.required_cases key
  · rw [if_pos (fine.2 present), read]
    exact next v
  · rw [if_neg (fine.not.2 missing), refused]
    rfl

theorem bare_map_required_bind {β : Type} {g : String → β} {f : β → Outcome α}
    (other : key ≠ "port")
    (next : ∀ v, (f (g v)).bare = verdict s.provider.tag s.members keys) :
    Outcome.bare ((s.required key).map g >>= f) =
      verdict s.provider.tag s.members (key :: keys) := by
  have joined : (s.required key).map g >>= f = s.required key >>= fun v => f (g v) := by
    cases s.required key <;> rfl
  rw [joined]
  exact bare_required_bind other next

theorem bare_portOr_bind {f : Nat → Outcome α} {default : Nat}
    (next : ∀ n, (f n).bare = verdict s.provider.tag s.members keys) :
    Outcome.bare (s.portOr "port" default >>= f) =
      verdict s.provider.tag s.members ("port" :: keys) := by
  have fine : s.members.Fine "port" ↔ s.members.PortFits := by rw [Fine, if_pos rfl]
  rw [verdict_cons, complaint, if_pos rfl]
  obtain ⟨fits, n, read⟩ | ⟨unfit, refused⟩ := s.portOr_cases default
  · rw [if_pos (fine.2 fits), read]
    exact next n
  · rw [if_neg (fine.not.2 unfit), refused]
    rfl

/-- The keys that a fetcher looks at, in their order. Which ones count may depend on which
credentials are there. -/
def Provider.demands (ms : Json.Members) : Provider → List String
  | .imap => ["server", "port", "username", "password"]
  | .outlookImap => ["port", "username", "client_id", "refresh_token"]
  | .gmailApi =>
    if ms.Present "access_token" then [] else ["client_id", "client_secret", "refresh_token"]
  | .outlookGraph =>
    if ms.Present "access_token" then []
    else if ms.Present "tenant_id" ∧ ms.Present "client_secret" then ["client_id"]
    else ["refresh_token", "client_id"]

theorem ImapConfig.bare_ofMembers (ms : Json.Members) :
    (ImapConfig.ofMembers ms).bare = verdict "imap" ms (Provider.imap.demands ms) :=
  bare_required_bind (by decide) fun _ => bare_portOr_bind fun _ =>
    bare_required_bind (by decide) fun _ => bare_required_bind (by decide) fun _ => rfl

theorem ImapConfig.bare_outlookOfMembers (ms : Json.Members) :
    (ImapConfig.outlookOfMembers ms).bare =
      verdict "outlook_imap" ms (Provider.outlookImap.demands ms) :=
  bare_portOr_bind fun _ => bare_required_bind (by decide) fun _ =>
    bare_required_bind (by decide) fun _ => bare_required_bind (by decide) fun _ => rfl

theorem GmailConfig.bare_ofMembers (ms : Json.Members) :
    (GmailConfig.ofMembers ms).bare = verdict "gmail_api" ms (Provider.gmailApi.demands ms) := by
  have present := (FetcherSettings.mk .gmailApi ms).present_iff "access_token"
  unfold GmailConfig.ofMembers
  dsimp only [Provider.demands]
  cases given : (FetcherSettings.mk .gmailApi ms).text? "access_token" with
  | some token =>
    rw [given] at present
    rw [if_pos (present.2 rfl)]
    rfl
  | none =>
    rw [given] at present
    rw [if_neg (present.not.2 nofun)]
    exact bare_required_bind (by decide) fun _ => bare_required_bind (by decide) fun _ =>
      bare_required_bind (by decide) fun _ => rfl

/-- Whoever has no token of its own has to name the application. -/
theorem GraphConfig.bare_named {auth : GraphAuth} (own : auth.isProvided = false)
    (config : GraphConfig) (ms : Json.Members) :
    Outcome.bare (if ((FetcherSettings.mk .outlookGraph ms).text? "client_id").isNone &&
        !auth.isProvided then
      .error (.config "outlook_graph fetcher requires config.client_id") else .ok config) =
    verdict "outlook_graph" ms ["client_id"] := by
  have present := (FetcherSettings.mk .outlookGraph ms).present_iff "client_id"
  have fine : ms.Fine "client_id" ↔ ms.Present "client_id" := Iff.rfl
  rw [verdict_cons, complaint, if_neg (by decide : ¬"client_id" = "port"), own]
  cases given : (FetcherSettings.mk .outlookGraph ms).text? "client_id" with
  | some id =>
    rw [given] at present
    rw [if_pos (fine.2 (present.2 rfl))]
    rfl
  | none =>
    rw [given] at present
    rw [if_neg (fine.not.2 (present.not.2 nofun))]
    rfl

theorem GraphConfig.bare_ofMembers (ms : Json.Members) : (GraphConfig.ofMembers ms).bare =
    verdict "outlook_graph" ms (Provider.outlookGraph.demands ms) := by
  have access := (FetcherSettings.mk .outlookGraph ms).present_iff "access_token"
  have tenant := (FetcherSettings.mk .outlookGraph ms).present_iff "tenant_id"
  have secret := (FetcherSettings.mk .outlookGraph ms).present_iff "client_secret"
  unfold GraphConfig.ofMembers GraphAuth.ofSettings
  dsimp only [Provider.demands]
  cases given : (FetcherSettings.mk .outlookGraph ms).text? "access_token" with
  | some token =>
    rw [given] at access
    rw [if_pos (access.2 rfl)]
    show Outcome.bare (if (_ && false) = true then _ else _) = _
    rw [Bool.and_false]
    rfl
  | none =>
    rw [given] at access
    rw [if_neg (access.not.2 nofun)]
    -- Both of the tenant and the secret have to be there, or the refresh token is asked for.
    cases called : (FetcherSettings.mk .outlookGraph ms).text? "tenant_id" with
    | none =>
      rw [called] at tenant
      rw [if_neg fun both => tenant.not.2 nofun both.1]
      exact bare_map_required_bind (by decide) fun _ => bare_named rfl _ ms
    | some id =>
      rw [called] at tenant
      cases kept : (FetcherSettings.mk .outlookGraph ms).text? "client_secret" with
      | none =>
        rw [kept] at secret
        rw [if_neg fun both => secret.not.2 nofun both.2]
        exact bare_map_required_bind (by decide) fun _ => bare_named rfl _ ms
      | some word =>
        rw [kept] at secret
        rw [if_pos ⟨tenant.2 rfl, secret.2 rfl⟩]
        exact @bare_named (.tenant id word) rfl _ ms

theorem FetcherConfig.bare_ofProvider (p : Provider) (ms : Json.Members) :
    (FetcherConfig.ofProvider p ms).bare = verdict p.tag ms (p.demands ms) := by
  unfold ofProvider
  cases p with
  | imap => rw [Outcome.bare_map, ImapConfig.bare_ofMembers]; rfl
  | outlookImap => rw [Outcome.bare_map, ImapConfig.bare_outlookOfMembers]; rfl
  | outlookGraph => rw [Outcome.bare_map, GraphConfig.bare_ofMembers]; rfl
  | gmailApi => rw [Outcome.bare_map, GmailConfig.bare_ofMembers]; rfl

/-- Settings with which an account gets its fetcher. -/
inductive Complete (ms : Json.Members) : Provider → Prop
  | imap (server : ms.Present "server") (port : ms.PortFits) (username : ms.Present "username")
      (password : ms.Present "password") : Complete ms .imap
  | outlookImap (port : ms.PortFits) (username : ms.Present "username")
      (client : ms.Present "client_id") (refresh : ms.Present "refresh_token") :
      Complete ms .outlookImap
  | gmailToken (token : ms.Present "access_token") : Complete ms .gmailApi
  | gmailRefresh (client : ms.Present "client_id") (secret : ms.Present "client_secret")
      (refresh : ms.Present "refresh_token") : Complete ms .gmailApi
  | graphToken (token : ms.Present "access_token") : Complete ms .outlookGraph
  | graphTenant (client : ms.Present "client_id") (tenant : ms.Present "tenant_id")
      (secret : ms.Present "client_secret") : Complete ms .outlookGraph
  | graphPersonal (client : ms.Present "client_id") (refresh : ms.Present "refresh_token") :
      Complete ms .outlookGraph

theorem complete_iff : Complete ms p ↔ ∀ key ∈ p.demands ms, ms.Fine key := by
  cases p with
  | imap =>
    simp only [Provider.demands, List.forall_mem_cons]
    constructor
    · intro complete
      cases complete with
      | imap server port username password => exact ⟨server, port, username, password, nofun⟩
    · rintro ⟨server, port, username, password, -⟩
      exact .imap server port username password
  | outlookImap =>
    simp only [Provider.demands, List.forall_mem_cons]
    constructor
    · intro complete
      cases complete with
      | outlookImap port username client refresh => exact ⟨port, username, client, refresh, nofun⟩
    · rintro ⟨port, username, client, refresh, -⟩
      exact .outlookImap port username client refresh
  | gmailApi =>
    dsimp only [Provider.demands]
    -- With a token nothing more is asked for; else the other constructor is the only one left.
    split_ifs with given
    · exact iff_of_true (.gmailToken given) nofun
    · simp only [List.forall_mem_cons]
      constructor
      · intro complete
        cases complete with
        | gmailToken token => exact absurd token given
        | gmailRefresh client secret refresh => exact ⟨client, secret, refresh, nofun⟩
      · rintro ⟨client, secret, refresh, -⟩
        exact .gmailRefresh client secret refresh
  | outlookGraph =>
    dsimp only [Provider.demands]
    split_ifs with given app
    · exact iff_of_true (.graphToken given) nofun
    · simp only [List.forall_mem_cons]
      constructor
      · intro complete
        cases complete with
        | graphToken token => exact absurd token given
        | graphTenant client tenant secret => exact ⟨client, nofun⟩
        | graphPersonal client refresh => exact ⟨client, nofun⟩
      · rintro ⟨client, -⟩
        exact .graphTenant client app.1 app.2
    · simp only [List.forall_mem_cons]
      constructor
      · intro complete
        cases complete with
        | graphToken token => exact absurd token given
        | graphTenant client tenant secret => exact absurd ⟨tenant, secret⟩ app
        | graphPersonal client refresh => exact ⟨refresh, client, nofun⟩
      · rintro ⟨refresh, client, -⟩
        exact .graphPersonal client refresh

/-- The keys that a kind of fetcher may look at before it is made. -/
def Provider.weighed : Provider → List String
  | .imap => ["server", "port", "username", "password"]
  | .outlookImap => ["port", "username", "client_id", "refresh_token"]
  | .gmailApi => ["access_token", "client_id", "client_secret", "refresh_token"]
  | .outlookGraph =>
    ["access_token", "tenant_id", "client_secret", "refresh_token", "client_id"]

theorem present_congr (same : ms.get? key = ms'.get? key) : ms.Present key ↔ ms'.Present key := by
  unfold Present
  rw [same]

theorem fine_congr (same : ms.get? key = ms'.get? key) : ms.Fine key ↔ ms'.Fine key := by
  unfold Fine
  split_ifs with port
  · subst port
    unfold PortFits
    rw [same]
  · exact present_congr same

theorem Provider.demands_subset (p : Provider) : p.demands ms ⊆ p.weighed := by
  cases p with
  | imap | outlookImap => exact List.Subset.refl _
  | gmailApi | outlookGraph =>
    dsimp only [demands]
    split_ifs <;> decide

theorem Provider.demands_congr (same : ∀ key ∈ p.weighed, ms.get? key = ms'.get? key) :
    p.demands ms = p.demands ms' := by
  cases p with
  | imap | outlookImap => rfl
  | gmailApi =>
    have token := present_congr (same "access_token" (by decide))
    simp only [demands, token]
  | outlookGraph =>
    have token := present_congr (same "access_token" (by decide))
    have tenant := present_congr (same "tenant_id" (by decide))
    have secret := present_congr (same "client_secret" (by decide))
    simp only [demands, token, tenant, secret]

theorem verdict_congr {tag : String} (same : ∀ key ∈ keys, ms.get? key = ms'.get? key) :
    verdict tag ms keys = verdict tag ms' keys := by
  induction keys with
  | nil => rfl
  | cons key keys ih =>
    obtain ⟨first, rest⟩ := List.forall_mem_cons.1 same
    rw [verdict_cons, verdict_cons, ih rest]
    exact if_congr (fine_congr first) rfl rfl

/-- Nothing but the keys that it weighs decides about a fetcher. -/
theorem verdict_demands_congr {tag : String}
    (same : ∀ key ∈ p.weighed, ms.get? key = ms'.get? key) :
    verdict tag ms (p.demands ms) = verdict tag ms' (p.demands ms') := by
  rw [← Provider.demands_congr same]
  exact verdict_congr fun key asked => same key (p.demands_subset asked)

theorem Account.get?_settings (a : Account) (weighed : key ∈ p.weighed) :
    a.settings.get? key = a.config.get? key := by
  -- No kind weighs the one key that the settings may have on top.
  have other : "email_address" ≠ key := by
    rintro rfl
    revert weighed
    cases p <;> decide
  unfold settings
  split_ifs
  · rfl
  · cases a.emailAddress with
    | none => rfl
    | some email => exact (get?_insert _ _ _ _).trans (if_neg other)

def Provider.spelled : List (String × Provider) :=
  [("imap", .imap), ("gmail_api", .gmailApi), ("outlook_graph", .outlookGraph),
    ("outlook_imap", .outlookImap)]

theorem Provider.tag_of_spelled {tag : String} (known : (tag, p) ∈ spelled) : tag = p.tag := by
  simp only [spelled, List.mem_cons, Prod.mk.injEq, List.not_mem_nil, or_false] at known
  obtain ⟨rfl, rfl⟩ | ⟨rfl, rfl⟩ | ⟨rfl, rfl⟩ | ⟨rfl, rfl⟩ := known <;> rfl

theorem Provider.ofTag_spelled {tag : String} (known : (tag, p) ∈ spelled) : ofTag tag = .ok p := by
  rw [tag_of_spelled known]
  cases p <;> rfl

theorem Provider.ofTag_unspelled {tag : String} (unknown : ∀ p, (tag, p) ∉ spelled) :
    ofTag tag = .error (.unknownProvider tag) := by
  have none : all.find? (·.tag = tag) = none := by
    rw [List.find?_eq_none]
    intro p _ called
    obtain rfl := of_decide_eq_true called
    exact unknown p (by cases p <;> decide)
  rw [ofTag, none]

/-- The first of the keys that is not as it has to be. -/
def FirstFault (ms : Json.Members) (keys : List String) (key : String) : Prop :=
  ∃ before after, keys = before ++ key :: after ∧ (∀ k ∈ before, ms.Fine k) ∧ ¬ms.Fine key

theorem verdict_eq_ok_iff {tag : String} :
    verdict tag ms keys = .ok () ↔ ∀ key ∈ keys, ms.Fine key := by
  unfold verdict
  cases first : keys.find? fun key => ¬ms.Fine key with
  | none => simpa using first
  | some key =>
    have bad : ¬ms.Fine key := by simpa using List.find?_some first
    exact iff_of_false nofun fun fine => bad (fine key (List.mem_of_find?_eq_some first))

theorem verdict_eq_error {tag : String} {why : Failure}
    (refused : verdict tag ms keys = .error why) :
    ∃ key, FirstFault ms keys key ∧ why = .config (complaint tag key) := by
  unfold verdict at refused
  cases first : keys.find? fun key => ¬ms.Fine key with
  | none =>
    rw [first] at refused
    cases refused
  | some key =>
    rw [first] at refused
    obtain ⟨bad, before, after, parted, fine⟩ := List.find?_eq_some_iff_append.1 first
    refine ⟨key, ⟨before, after, parted, fun k among => ?_, by simpa using bad⟩, ?_⟩
    · simpa using fine k among
    · cases refused
      rfl

theorem Outcome.bare_eq_ok_iff {outcome : Outcome α} :
    outcome.bare = .ok () ↔ ∃ v, outcome = .ok v := by
  cases outcome with
  | ok v => exact iff_of_true rfl ⟨v, rfl⟩
  | error why => exact iff_of_false nofun nofun

theorem Outcome.bare_eq_error_iff {outcome : Outcome α} {why : Failure} :
    outcome.bare = .error why ↔ outcome = .error why := by
  cases outcome with
  | ok v => exact iff_of_false nofun nofun
  | error other => constructor <;> (rintro ⟨⟩; rfl)

theorem Fetcher.bare_ofAccount {a : Account} (known : (a.providerTag, p) ∈ Provider.spelled) :
    (ofAccount a).2.bare = verdict a.providerTag a.settings (p.demands a.settings) := by
  have named : a.provider = .ok p := Provider.ofTag_spelled known
  unfold ofAccount FetcherConfig.ofAccount
  rw [named, Provider.tag_of_spelled known, ← FetcherConfig.bare_ofProvider]
  exact Outcome.bare_map _ _

theorem Fetcher.ofAccount_unknown {a : Account}
    (unknown : ∀ p, (a.providerTag, p) ∉ Provider.spelled) :
    (ofAccount a).2 = .error (.unknownProvider a.providerTag) := by
  have named : a.provider = .error (.unknownProvider a.providerTag) :=
    Provider.ofTag_unspelled unknown
  unfold ofAccount FetcherConfig.ofAccount
  rw [named]
  rfl

/-- An account gets a fetcher exactly if its kind is known and its settings are complete. If the
kind is not known, that is the failure, whatever the settings are. Else the failure names the first
key, in the order in which they are looked at, that is not as it has to be. Accounts of one kind
that agree on the keys that it weighs fare alike. -/
theorem fetcher_iff_complete (a : Account) :
    ((Fetcher.ofAccount a).2 = .error (.unknownProvider a.providerTag) ↔
      ∀ p, (a.providerTag, p) ∉ Provider.spelled) ∧
    ∀ p, (a.providerTag, p) ∈ Provider.spelled →
      ((∃ f, (Fetcher.ofAccount a).2 = .ok f) ↔ Complete a.settings p) ∧
      (∀ why, (Fetcher.ofAccount a).2 = .error why → ∃ key,
        FirstFault a.settings (p.demands a.settings) key ∧
          why = .config (complaint a.providerTag key)) ∧
      ∀ b : Account, b.providerTag = a.providerTag →
        (∀ key ∈ p.weighed, b.config.get? key = a.config.get? key) →
        (Fetcher.ofAccount b).2.bare = (Fetcher.ofAccount a).2.bare := by
  refine ⟨⟨fun refused p known => ?_, Fetcher.ofAccount_unknown⟩, fun p known => ⟨?_, ?_, ?_⟩⟩
  -- A known kind fails for its settings only, and that is another failure.
  · rw [← Outcome.bare_eq_error_iff, Fetcher.bare_ofAccount known] at refused
    obtain ⟨key, -, other⟩ := verdict_eq_error refused
    cases other
  · rw [← Outcome.bare_eq_ok_iff, Fetcher.bare_ofAccount known, verdict_eq_ok_iff, complete_iff]
  · intro why refused
    rw [← Outcome.bare_eq_error_iff, Fetcher.bare_ofAccount known] at refused
    exact verdict_eq_error refused
  · intro b alike same
    rw [Fetcher.bare_ofAccount known, Fetcher.bare_ofAccount (alike ▸ known), alike]
    refine verdict_demands_congr fun key weighed => ?_
    rw [a.get?_settings weighed, b.get?_settings weighed, same key weighed]

/-- An application with a secret and a refresh token, but without a name; its account is told so
whatever its address is and whoever the user is. -/
theorem fetcher_iff_complete_nameless :
    let a : Account := ⟨"work", "outlook_graph", true, none,
      [("client_secret", .str "s"), ("refresh_token", .str "r"), ("tenant_id", .str "t")],
      Criteria.default, none⟩
    let b : Account := { a with
      enabled := false
      emailAddress := some "ann@example.com"
      config := a.config ++ [("user_principal_name", .str "ann")] }
    ¬Complete a.settings .outlookGraph ∧
      (∃ key, FirstFault a.settings ["client_id"] key ∧
        Failure.config "outlook_graph fetcher requires config.client_id" =
          .config (complaint "outlook_graph" key)) ∧
      (Fetcher.ofAccount b).2.bare = (Fetcher.ofAccount a).2.bare := by
  intro a b
  have known : (a.providerTag, Provider.outlookGraph) ∈ Provider.spelled := by decide
  have refused : (Fetcher.ofAccount a).2 =
      .error (.config "outlook_graph fetcher requires config.client_id") := rfl
  obtain ⟨complete, first, alike⟩ := (fetcher_iff_complete a).2 _ known
  have same : ∀ key ∈ Provider.outlookGraph.weighed, b.config.get? key = a.config.get? key := by
    simp only [Provider.weighed, List.forall_mem_cons]
    exact ⟨rfl, rfl, rfl, rfl, rfl, nofun⟩
  refine ⟨fun enough => ?_, first _ refused, alike b rfl same⟩
  obtain ⟨f, made⟩ := complete.2 enough
  rw [refused] at made
  cases made

end MailRound
