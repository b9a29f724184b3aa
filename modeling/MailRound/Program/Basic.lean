import MailRound.CommandLine.Help
import MailRound.CommandLine.Reading
import MailRound.Environment.Dotenv
import MailRound.Environment.Filter
import MailRound.Environment.Polling
import MailRound.Fetcher.Basic
import MailRound.Program.Loop

namespace MailRound.Program

structure Start where
  arguments : List String
  environment : Environment
  /-- The text of the settings file, if there is one. -/
  dotenv : Option String
  file : String → Except FileFault Bytes
  clock : Calendar.Instant

/-- What a run has written to its log, and how. -/
structure Journal where
  serviceName : String
  format : Log.Format
  events : List Log.Event
  deriving DecidableEq, Repr

structure Ending where
  code : Nat
  output : String
  errors : String
  journal : Option Journal
  deriving DecidableEq, Repr

variable {ω φ : Type}

/-- The longest time that polling one account can take while calls take none. -/
def longestCycle (p : Poller ω φ) : Nat :=
  (p.accounts.map fun a =>
    let polling := a.effectivePolling p.shared.defaults
    polling.maxPollCount * polling.pollInterval * 1000).foldl max 0

def round (m : Mailboxes ω φ) (limit : Nat) (p : Poller ω φ) : Poller ω φ :=
  let p := p.start true
  let rounds := longestCycle p / max limit 1 + 2
  let p := (pollAll m limit rounds (p.accounts.length + 1) p).poller
  let p := note p "All accounts processed"
  let p := p.stop m
  note p ("Received " ++ Text.decimal p.shared.queue.stats.totalMessages ++ " message(s) in total")

def errorText (context : String) (why : Failure) : String :=
  "Error: " ++ context ++ "\n\nCaused by:\n    " ++
    "\n    ".intercalate (why.message.splitOn "\n") ++ "\n"

def lines (texts : List String) : String := String.join (texts.map (· ++ "\n"))

def defaultsText (p : Polling) : String :=
  "Polling defaults: " ++ Text.decimal p.maxPollCount ++ " attempts, " ++
    Text.decimal p.pollInterval ++ "s interval, " ++ Text.decimal p.maxEmailsPerPoll ++
    " emails per attempt"

/-- What is left of a run once its log is set up: events, the failure that ended it, and the desk. -/
def runLogged (net : Network ω) (world : ω) (start : Start) (env : Environment)
    (command : CommandLine) : List Log.Event × Option (String × Failure) × Desk ω :=
  match Polling.ofEnvironment env with
  | .error why => ([], some ("invalid polling settings in environment", why), Desk.new world)
  | .ok polling =>
    let defaults := polling.mergedWith (some command.overrides)
    let begun := polling.warnings ++ [⟨.info, .program, defaultsText defaults⟩]
    let (loading, outcome) := Roster.ofFile command.config (start.file command.config)
    match outcome with
    | .error why =>
      (begun ++ loading, some ("failed to load accounts from " ++ command.config, why),
        Desk.new world)
    | .ok roster =>
      let p := Poller.new roster defaults (Desk.new world) start.clock
      let p := round (Fetcher.mailboxes net) (command.waitTimeout * 1000) p
      (begun ++ loading ++ p.shared.log, none, p.shared.world)

def run (net : Network ω) (world : ω) (start : Start) : Ending × Desk ω :=
  let env := Dotenv.load start.environment start.dotenv
  match CommandLine.read start.arguments with
  | .error .help => (⟨0, CommandLine.helpText, "", none⟩, Desk.new world)
  | .error fault => (⟨2, "", fault.report, none⟩, Desk.new world)
  | .ok command =>
    let (settings, settingNotices) := Log.Settings.ofEnvironment env
    let (filter, filterNotices) := Log.Filter.ofEnvironment env settings.level
    let (events, failure, desk) := runLogged net world start env command
    let journal : Journal :=
      ⟨command.serviceName, settings.format, events.filter fun e => filter.admits e⟩
    let notices := lines (settingNotices ++ filterNotices)
    match failure with
    | none => (⟨0, "", notices, some journal⟩, desk)
    | some (context, why) => (⟨1, "", notices ++ errorText context why, some journal⟩, desk)

end MailRound.Program
