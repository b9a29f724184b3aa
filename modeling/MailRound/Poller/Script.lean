import MailRound.Poller.Mailboxes

namespace MailRound.Script

structure Stage where
  delay : Nat
  error : Option Failure
  panics : Bool

/-- One attempt. -/
structure Step where
  createError : Option Failure
  connect : Stage
  fetch : Stage
  mark : Stage
  disconnect : Stage
  batch : List Message

def Stage.quiet : Stage := ⟨0, none, false⟩

def Step.empty : Step := ⟨none, .quiet, .quiet, .quiet, .quiet, []⟩

abbrev Scripts := List (String × List Step)

def take (scripts : Scripts) (id : String) : Step × Scripts :=
  match scripts with
  | [] => (.empty, [])
  | (k, steps) :: rest =>
    if k = id then
      match steps with
      | [] => (.empty, scripts)
      | s :: ss => (s, (k, ss) :: rest)
    else
      let (s, rest) := take rest id
      (s, (k, steps) :: rest)

def Stage.fate (s : Stage) (value : α) : Fate α :=
  if s.panics then .panics "scripted panic"
  else match s.error with
    | some why => .returns (.error why)
    | none => .returns (.ok value)

def reply (scripts : Scripts) (step : Step) (stage : Stage) (value : α) : Reply Scripts Step α :=
  ⟨scripts, step, stage.delay, [], stage.fate value⟩

def mailboxes : Mailboxes Scripts Step where
  create scripts account :=
    let (step, scripts) := take scripts account.id
    match step.createError with
    | some why => (scripts, [], .error why)
    | none => (scripts, [], .ok step)
  connect scripts step := reply scripts step step.connect ()
  fetch scripts step _ := reply scripts step step.fetch step.batch
  markRead scripts step _ := reply scripts step step.mark ()
  disconnect scripts step := reply scripts step step.disconnect ()

end MailRound.Script
