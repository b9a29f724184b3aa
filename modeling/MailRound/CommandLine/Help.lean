import MailRound.CommandLine.Basic
import MailRound.Text.Terminal

namespace MailRound.CommandLine

def usageLine : String := "Usage: mail-poller [OPTIONS] --config <FILE>"

def helpText : String := "\n".intercalate [
  "Poll mail accounts one at a time and print newly received messages",
  "",
  usageLine,
  "",
  "Options:",
  "  -c, --config <FILE>",
  "          Account configuration file (JSON)",
  "      --max-poll-count <MAX_POLL_COUNT>",
  "          Maximum fetch attempts per account (overrides POLL_MAX_COUNT)",
  "      --poll-interval <POLL_INTERVAL>",
  "          Seconds to wait between fetch attempts (overrides POLL_INTERVAL)",
  "      --max-emails <MAX_EMAILS>",
  "          Maximum emails requested per attempt (overrides POLL_MAX_EMAILS)",
  "      --wait-timeout <WAIT_TIMEOUT>",
  "          Seconds between queue drains while an account is being polled [default: 10]",
  "      --service-name <SERVICE_NAME>",
  "          Log file name prefix [default: mail-poller]",
  "  -h, --help",
  "          Print help",
  ""]

namespace Fault

/-- Text of the caller as a message shows it. -/
def shown (text : String) : String := "'" ++ Text.Terminal.strip text ++ "'"

def message : Fault → String
  | .help => helpText
  | .unknown argument => "error: unexpected argument " ++ shown argument ++ " found"
  | .valueMissing key =>
    "error: a value is required for '" ++ key.usage ++ "' but none was supplied"
  | .valueInvalid key value why =>
    "error: invalid value " ++ shown value ++ " for '" ++ key.usage ++ "': " ++ why
  | .repeated key => "error: the argument '" ++ key.usage ++ "' cannot be used multiple times"
  | .valueUnwanted value =>
    "error: unexpected value " ++ shown value ++ " for '--help' found; no more were expected"
  | .configMissing => "error: the following required arguments were not provided:\n  " ++
      Key.usage .config

def report (f : Fault) : String :=
  match f with
  | .help => helpText
  | .valueInvalid _ _ _ => f.message ++ "\n\nFor more information, try '--help'.\n"
  | .valueMissing _ => f.message ++ "\n\nFor more information, try '--help'.\n"
  | _ => f.message ++ "\n\n" ++ usageLine ++ "\n\nFor more information, try '--help'.\n"

end Fault

end MailRound.CommandLine
