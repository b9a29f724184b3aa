import MailRound.Environment.Dotenv
import MailRound.Environment.Polling
import MailRound.Proofs.Text.Numerals
import MailRound.Proofs.Text.Utf8

namespace MailRound

variable {env : Environment} {default : Nat} {v : String × Nat}

def Environment.bytes? (env : Environment) (name : String) : Option Bytes :=
  (env.vars.find? (·.1 = name)).map Prod.snd

theorem Environment.text?_eq_bind (env : Environment) (name : String) :
    env.text? name = (env.bytes? name).bind Text.Utf8.decode? := by
  unfold text? bytes?
  cases env.vars.find? (·.1 = name) <;> rfl

namespace Polling

/-- The variables in the order in which they are looked at, and where their numbers end. -/
def numbers : List (String × Nat) :=
  [("POLL_MAX_COUNT", 2 ^ 32), ("POLL_INTERVAL", 2 ^ 64), ("POLL_MAX_EMAILS", 2 ^ 32)]

/-- Bytes that say a number below `bound`. -/
def Says (bound : Nat) (bytes : Bytes) (n : Nat) : Prop :=
  ∃ s, bytes = Text.Utf8.encode s ∧ Text.Denotes s n ∧ n < bound

/-- A variable is set to a text that says no number of its width. -/
def Offends (env : Environment) (v : String × Nat) : Prop :=
  ∃ s, env.bytes? v.1 = some (Text.Utf8.encode s) ∧ ∀ n < v.2, ¬Text.Denotes s n

/-- The number that a variable gives: the one it says, or the default if it is not set or is set to
what is no text. -/
def Gives (env : Environment) (v : String × Nat) (default n : Nat) : Prop :=
  match env.bytes? v.1 with
  | none => n = default
  | some bytes => Says v.2 bytes n ∨ (∀ s, bytes ≠ Text.Utf8.encode s) ∧ n = default

def Reads (env : Environment) (v : String × Nat) (default : Nat) : Outcome Nat → Prop
  | .ok n => Gives env v default n ∧ ¬Offends env v
  | .error why => Offends env v ∧
    ∃ fault : Text.NumeralFault, why = .config ("Invalid " ++ v.1 ++ ": " ++ fault.message)

theorem setting_reads (env : Environment) (v : String × Nat) (default : Nat) :
    Reads env v default (setting env v.1 v.2 default) := by
  unfold setting Reads Gives Offends
  rw [Environment.text?_eq_bind]
  cases env.bytes? v.1 with
  | none => simp
  | some bytes =>
    cases decoded : Text.Utf8.decode? bytes with
    | none =>
      have noText (s : String) : bytes ≠ Text.Utf8.encode s := by
        intro encoded
        rw [Text.Utf8.decode?_eq_some_iff.2 encoded] at decoded
        cases decoded
      simp [decoded, noText]
    | some s =>
      have encoded := Text.Utf8.decode?_eq_some_iff.1 decoded
      have only (t : String) (same : bytes = Text.Utf8.encode t) : t = s := by
        rw [Text.Utf8.decode?_eq_some_iff.2 same] at decoded
        exact Option.some.inj decoded
      simp only [Option.bind_some, decoded]
      cases read : Text.readUnsigned v.2 (Text.trim s).toList with
      | ok n =>
        have meant := Text.readUnsigned_eq_ok_iff.1 read
        rw [← Text.denotes_iff_unsigned_trim] at meant
        refine ⟨.inl ⟨s, encoded, meant⟩, ?_⟩
        rintro ⟨t, same, unsaid⟩
        obtain rfl := only t (Option.some.inj same)
        exact unsaid n meant.2 meant.1
      | error fault =>
        refine ⟨⟨s, congrArg some encoded, fun n less denotes => ?_⟩, fault, rfl⟩
        rw [Text.denotes_iff_unsigned_trim] at denotes
        rw [Text.readUnsigned_eq_ok_iff.2 ⟨denotes, less⟩] at read
        cases read

/-- How the settings come out of an environment: every variable gives its number, or the first one
that offends is named. -/
theorem ofEnvironment_spec (env : Environment) :
    match ofEnvironment env with
    | .ok p => (∀ v ∈ numbers, ¬Offends env v) ∧
      Gives env ("POLL_MAX_COUNT", 2 ^ 32) 10 p.maxPollCount ∧
      Gives env ("POLL_INTERVAL", 2 ^ 64) 60 p.pollInterval ∧
      Gives env ("POLL_MAX_EMAILS", 2 ^ 32) 100 p.maxEmailsPerPoll
    | .error why => ∃ before v after, numbers = before ++ v :: after ∧
      (∀ u ∈ before, ¬Offends env u) ∧ Offends env v ∧
      ∃ fault : Text.NumeralFault, why = .config ("Invalid " ++ v.1 ++ ": " ++ fault.message) := by
  have first := setting_reads env ("POLL_MAX_COUNT", 2 ^ 32) 10
  have second := setting_reads env ("POLL_INTERVAL", 2 ^ 64) 60
  have third := setting_reads env ("POLL_MAX_EMAILS", 2 ^ 32) 100
  have width32 : Text.limit32 = 2 ^ 32 := by decide
  have width64 : Text.limit64 = 2 ^ 64 := by decide
  unfold ofEnvironment
  rw [width32, width64]
  dsimp only [Polling.default] at first second third ⊢
  cases count : setting env "POLL_MAX_COUNT" (2 ^ 32) 10 with
  | error why =>
    rw [count] at first
    exact ⟨[], _, _, rfl, by simp, first⟩
  | ok =>
    rw [count] at first
    cases interval : setting env "POLL_INTERVAL" (2 ^ 64) 60 with
    | error why =>
      rw [interval] at second
      exact ⟨[_], _, _, rfl, by simpa using first.2, second⟩
    | ok =>
      rw [interval] at second
      cases emails : setting env "POLL_MAX_EMAILS" (2 ^ 32) 100 with
      | error why =>
        rw [emails] at third
        exact ⟨[_, _], _, _, rfl, by simpa using ⟨first.2, second.2⟩, third⟩
      | ok =>
        rw [emails] at third
        exact ⟨by simpa [numbers] using ⟨first.2, second.2, third.2⟩, first.1, second.1, third.1⟩

/-- Once the file has been taken in, the settings can be read exactly if no variable offends: if
each that is set to a text says a number of its width, by decimal digits with or without a plus sign
before them and white space around. Then each setting is what its variable says, or the default if
the variable is not set or is set to bytes that are no text; else the first variable that offends is
named. -/
theorem settings_heeded_unless_illegible (env : Environment) (file : Option String) :
    ((∃ p, ofEnvironment (Dotenv.load env file) = .ok p) ↔
      ∀ v ∈ numbers, ¬Offends (Dotenv.load env file) v) ∧
    (∀ p, ofEnvironment (Dotenv.load env file) = .ok p →
      Gives (Dotenv.load env file) ("POLL_MAX_COUNT", 2 ^ 32) 10 p.maxPollCount ∧
      Gives (Dotenv.load env file) ("POLL_INTERVAL", 2 ^ 64) 60 p.pollInterval ∧
      Gives (Dotenv.load env file) ("POLL_MAX_EMAILS", 2 ^ 32) 100 p.maxEmailsPerPoll) ∧
    ∀ why, ofEnvironment (Dotenv.load env file) = .error why →
      ∃ before v after, numbers = before ++ v :: after ∧
        (∀ u ∈ before, ¬Offends (Dotenv.load env file) u) ∧ Offends (Dotenv.load env file) v ∧
        ∃ fault : Text.NumeralFault,
          why = .config ("Invalid " ++ v.1 ++ ": " ++ fault.message) := by
  generalize Dotenv.load env file = merged
  have spec := ofEnvironment_spec merged
  cases read : ofEnvironment merged with
  | ok p =>
    rw [read] at spec
    refine ⟨⟨fun _ => spec.1, fun _ => ⟨p, rfl⟩⟩, fun q same => ?_, fun why other => ?_⟩
    · obtain rfl := Except.ok.inj same
      exact spec.2
    · cases other
  | error why =>
    rw [read] at spec
    refine ⟨⟨fun ⟨p, other⟩ => ?_, fun sound => ?_⟩, fun p other => ?_, fun why' same => ?_⟩
    · cases other
    · obtain ⟨before, v, after, split, -, offends, -⟩ := spec
      exact absurd offends (sound v (by simp [split]))
    · cases other
    · obtain rfl := Except.error.inj same
      exact spec

theorem settings_heeded_unless_illegible_mixed :
    let env : Environment :=
      ⟨[("POLL_MAX_COUNT", Text.Utf8.encode " +007 "), ("POLL_INTERVAL", [255])]⟩
    ofEnvironment (Dotenv.load env none) = .ok ⟨7, 60, 100⟩ ∧
      Gives (Dotenv.load env none) ("POLL_MAX_COUNT", 2 ^ 32) 10 7 ∧
      Gives (Dotenv.load env none) ("POLL_INTERVAL", 2 ^ 64) 60 60 ∧
      Gives (Dotenv.load env none) ("POLL_MAX_EMAILS", 2 ^ 32) 100 100 := by
  intro env
  have read : ofEnvironment (Dotenv.load env none) = .ok ⟨7, 60, 100⟩ := by decide +kernel
  exact ⟨read, (settings_heeded_unless_illegible env none).2.1 _ read⟩

/-- A variable that is set to something else than a number may be passed over. -/
theorem settings_not_always_heeded : ¬∀ (env : Environment) (file : Option String),
    (∃ p, ofEnvironment (Dotenv.load env file) = .ok p) → ∀ v ∈ numbers,
      ∀ bytes ∈ (Dotenv.load env file).bytes? v.1, ∃ n, Says v.2 bytes n := by
  intro heeded
  obtain ⟨n, s, encoded, -⟩ := heeded ⟨[("POLL_INTERVAL", [255, 254])]⟩ none
    ⟨Polling.default, by decide⟩ ("POLL_INTERVAL", 2 ^ 64) (by simp [numbers]) [255, 254]
    (by decide)
  have illegible : Text.Utf8.decode? [255, 254] = none := rfl
  rw [Text.Utf8.decode?_eq_some_iff.2 encoded] at illegible
  cases illegible

end Polling

end MailRound
