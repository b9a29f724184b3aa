namespace MailRound

namespace Log

inductive Level where
  | trace
  | debug
  | info
  | warn
  | error
  deriving DecidableEq, Repr

def Level.name : Level → String
  | .trace => "TRACE"
  | .debug => "DEBUG"
  | .info => "INFO"
  | .warn => "WARN"
  | .error => "ERROR"

/-- How loud a level is: a filter at one level lets through all that are at least as loud. -/
def Level.rank : Level → Nat
  | .trace => 0
  | .debug => 1
  | .info => 2
  | .warn => 3
  | .error => 4

/-- The part of the program that an event comes from. -/
inductive Origin where
  | program
  | roster
  | poller
  | worker
  | factory
  | token
  | gmail
  | graph
  | imap
  deriving DecidableEq, Repr

def Origin.target : Origin → String
  | .program => "mail_poller"
  | .roster => "mail_poller::core::config"
  | .poller => "mail_poller::services::email::poller"
  | .worker => "mail_poller::services::email::worker"
  | .factory => "mail_poller::services::email::factory"
  | .token => "mail_poller::infrastructure::oauth"
  | .gmail => "mail_poller::infrastructure::gmail"
  | .graph => "mail_poller::infrastructure::graph"
  | .imap => "mail_poller::infrastructure::imap"

structure Event where
  level : Level
  origin : Origin
  text : String
  deriving DecidableEq, Repr

end Log

end MailRound
