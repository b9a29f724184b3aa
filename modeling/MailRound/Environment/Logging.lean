import MailRound.Environment.Basic
import MailRound.Log
import MailRound.Text.Blank
import MailRound.Text.LowerCase

namespace MailRound.Log

inductive Format where
  | json
  | pretty
  | compact
  deriving DecidableEq, Repr

namespace Format

def read (text : String) : Except String Format :=
  match Text.toLowercase (Text.trim text) with
  | "json" => .ok .json
  | "pretty" => .ok .pretty
  | "compact" => .ok .compact
  | other => .error ("unknown log format: " ++ other)

end Format

def Level.read? (text : String) : Option Level :=
  match Text.toLowercase (Text.trim text) with
  | "trace" => some .trace
  | "debug" => some .debug
  | "info" => some .info
  | "warn" => some .warn
  | "warning" => some .warn
  | "error" => some .error
  | _ => none

structure Settings where
  level : Level
  format : Format
  deriving DecidableEq, Repr

/-- The settings, and a notice for each variable that makes no sense and is passed over. -/
def Settings.ofEnvironment (env : Environment) : Settings × List String :=
  let (level, levelNotice) := match env.text? "LOG_LEVEL" with
    | none => (Level.info, [])
    | some raw => match Level.read? raw with
      | some l => (l, [])
      | none => (.info, ["Invalid LOG_LEVEL: " ++ raw ++ ", using INFO"])
  let (format, formatNotice) := match env.text? "LOG_FORMAT" with
    | none => (Format.pretty, [])
    | some raw => match Format.read raw with
      | .ok f => (f, [])
      | .error e => (.pretty, ["Invalid LOG_FORMAT (" ++ e ++ "), using pretty"])
  (⟨level, format⟩, levelNotice ++ formatNotice)

end MailRound.Log
