import MailRound.CommandLine.Basic

namespace MailRound.CommandLine

structure Draft where
  config : Option String := none
  maxPollCount : Option Nat := none
  pollInterval : Option Nat := none
  maxEmails : Option Nat := none
  waitTimeout : Option Nat := none
  serviceName : Option String := none
  deriving DecidableEq, Repr

/-- A number of 32 bits. It is read with a sign and many more digits before its range is looked
at. -/
def readCount (value : String) : Except String Nat :=
  match Text.readSigned Text.limit63 value.toList with
  | .error fault => .error fault.message
  | .ok n =>
    if 0 ≤ n ∧ n < Text.limit32 then .ok n.toNat
    else .error (Text.decimalInt n ++ " is not in 0..=4294967295")

def readSpan (value : String) : Except String Nat :=
  (Text.readUnsigned Text.limit64 value.toList).mapError Text.NumeralFault.message

def number (key : Key) (value : String) (read : String → Except String Nat) : Except Fault Nat :=
  (read value).mapError (Fault.valueInvalid key value)

def once {α : Type} (key : Key) (old : Option α) (new : Except Fault α) :
    Except Fault (Option α) :=
  match old with
  | some _ => .error (.repeated key)
  | none => new.map some

def Draft.set (d : Draft) (key : Key) (value : String) : Except Fault Draft :=
  match key with
  | .config =>
    (once key d.config (if value = "" then .error (.valueMissing key) else .ok value)).map
      fun v => { d with config := v }
  | .maxPollCount => (once key d.maxPollCount (number key value readCount)).map
      fun v => { d with maxPollCount := v }
  | .pollInterval => (once key d.pollInterval (number key value readSpan)).map
      fun v => { d with pollInterval := v }
  | .maxEmails => (once key d.maxEmails (number key value readCount)).map
      fun v => { d with maxEmails := v }
  | .waitTimeout => (once key d.waitTimeout (number key value readSpan)).map
      fun v => { d with waitTimeout := v }
  | .serviceName => (once key d.serviceName (.ok value)).map
      fun v => { d with serviceName := v }

/-- An option that is not settled yet. -/
inductive Pending where
  | none
  | awaiting (key : Key)
  | given (key : Key) (value : String)
  deriving DecidableEq, Repr

structure State where
  draft : Draft := {}
  pending : Pending := .none
  /-- Two dashes have been seen, so that no option follows. -/
  closed : Bool := false
  deriving DecidableEq, Repr

namespace State

def settle (s : State) : Except Fault State :=
  match s.pending with
  | .none => .ok s
  | .awaiting key => .error (.valueMissing key)
  | .given key value => (s.draft.set key value).map fun d => { s with draft := d, pending := .none }

def option (s : State) (key : Key) (attached : Option String) : Except Fault State := do
  let s ← s.settle
  match attached with
  | some value =>
    let d ← s.draft.set key value
    return { s with draft := d }
  | none => return { s with pending := .awaiting key }

def help (s : State) : Except Fault State := do
  let _ ← s.settle
  throw .help

def splitLong (cs : List Char) : String × Option String :=
  let name := cs.takeWhile (· ≠ '=')
  (String.ofList name, match cs.drop name.length with
    | _ :: value => some (String.ofList value)
    | [] => none)

def long (s : State) (cs : List Char) : Except Fault State :=
  match splitLong cs with
  | ("help", none) => s.help
  | ("help", some value) => .error (.valueUnwanted value)
  | (name, attached) =>
    match Key.ofLong? name with
    | some key => s.option key attached
    | none => .error (.unknown ("--" ++ name))

/-- The value attached to a short option, with or without an equals sign. -/
def attached? : List Char → Option String
  | [] => none
  | '=' :: cs => some (String.ofList cs)
  | cs => some (String.ofList cs)

def short (s : State) (c : Char) (cs : List Char) : Except Fault State :=
  if c = 'c' then s.option .config (attached? cs)
  else if c = 'h' then s.help
  else .error (.unknown ("-" ++ String.singleton c))

def plain (s : State) (argument : String) : Except Fault State :=
  match s.pending with
  | .awaiting key => .ok { s with pending := .given key argument }
  | _ => .error (.unknown argument)

def step (s : State) (argument : String) : Except Fault State :=
  if s.closed then .error (.unknown argument)
  else match argument.toList with
    | ['-', '-'] => .ok { s with closed := true }
    | '-' :: '-' :: cs => s.long cs
    | '-' :: c :: cs => s.short c cs
    | _ => s.plain argument

end State

def Draft.finish (d : Draft) : Except Fault CommandLine :=
  match d.config with
  | none => .error .configMissing
  | some config => .ok ⟨config, d.maxPollCount, d.pollInterval, d.maxEmails,
      d.waitTimeout.getD 10, d.serviceName.getD "mail-poller"⟩

def read (arguments : List String) : Except Fault CommandLine := do
  let s ← arguments.foldlM State.step {}
  let s ← s.settle
  s.draft.finish

end MailRound.CommandLine
