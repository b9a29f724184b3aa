import MailRound.Environment.Logging
import MailRound.Text.Alphanumeric
import MailRound.Text.Numeral

namespace MailRound.Log

/-- What a directive lets through: events of a level and above, or nothing. -/
inductive Threshold where
  | off
  | level (least : Level)
  deriving DecidableEq, Repr

def Threshold.admits (t : Threshold) (l : Level) : Bool :=
  match t with
  | .off => false
  | .level least => least.rank ≤ l.rank

def Threshold.read? (text : String) : Option Threshold :=
  match String.ofList (text.toList.map Char.toLower) with
  | "off" => some .off
  | "error" => some (.level .error)
  | "warn" => some (.level .warn)
  | "info" => some (.level .info)
  | "debug" => some (.level .debug)
  | "trace" => some (.level .trace)
  | _ =>
    match Text.readUnsigned 6 text.toList with
    | .ok 0 => some .off
    | .ok 1 => some (.level .error)
    | .ok 2 => some (.level .warn)
    | .ok 3 => some (.level .info)
    | .ok 4 => some (.level .debug)
    | .ok _ => some (.level .trace)
    | .error _ => none

/-- What a directive asks of an event: where it comes from, which field it has, and how loud it is.
A directive that asks for a span, or for the value of a field, is about no event of this program. -/
structure Directive where
  target : Option String
  field : Option String
  elsewhere : Bool
  threshold : Threshold
  deriving DecidableEq, Repr

namespace Directive

def everything (t : Threshold) : Directive := ⟨none, none, false, t⟩

inductive Fault where
  | shape
  | level
  deriving DecidableEq, Repr

def Fault.message : Fault → String
  | .shape => "invalid filter directive"
  | .level => "error parsing level filter: expected one of \"off\", \"error\", \"warn\", \"info\", " ++
      "\"debug\", \"trace\", or a number 0-5"

/-- The part of a directive that is being read, and the byte at which it began. -/
inductive Stage where
  | start
  | name
  | span (first : Nat)
  | field (first : Nat)
  | fields
  | closed
  | level (first : Nat)
  deriving DecidableEq, Repr

def isNameStart (c : Char) : Bool :=
  c == '-' || c == ':' || c == '_' || Text.isAlphanumeric c

/-- The bytes of a text between two places. -/
def cut (whole : Bytes) (first last : Nat) : Except Fault String :=
  match Text.Utf8.decode? ((whole.take last).drop first) with
  | some piece => .ok piece
  | none => .error .shape

/-- A name after which nothing stands enables everything that bears it. -/
def readLevel (text : String) : Except Fault Threshold :=
  if text = "" then .ok (.level .trace)
  else match Threshold.read? text with
    | some t => .ok t
    | none => .error .level

def withField (d : Directive) (text : String) : Except Fault Directive :=
  if text = "" then .error .shape
  else
    let name := text.toList.takeWhile (· ≠ '=')
    .ok { d with
      field := some (String.ofList name)
      elsewhere := d.elsewhere || name.length < text.length }

def step (whole : Bytes) (place : Nat) (c : Char) (stage : Stage) (d : Directive) :
    Except Fault (Stage × Directive) := do
  match stage with
  | .start =>
    if c = '[' then return (.span (place + 1), d)
    else if isNameStart c then return (.name, d)
    else throw .shape
  | .name =>
    if c = '=' then return (.level (place + 1), { d with target := some (← cut whole 0 place) })
    else if c = '[' then return (.span (place + 1), { d with target := some (← cut whole 0 place) })
    else return (.name, d)
  | .span first =>
    if c = ']' then return (.closed, { d with elsewhere := true })
    else if c = '\x7b' then
      return (.field (place + 1), { d with elsewhere := (← cut whole first place) ≠ "" })
    else return (.span first, d)
  | .field first =>
    if c = '\x7d' then return (.fields, ← d.withField (← cut whole first place))
    else return (.field first, d)
  | .fields => if c = ']' then return (.closed, d) else throw .shape
  | .closed => if c = '=' then return (.level (place + 1), d) else throw .shape
  | .level first => return (.level first, d)

def scan (whole : Bytes) (place : Nat) (stage : Stage) (d : Directive) :
    List Char → Except Fault (Stage × Directive)
  | [] => .ok (stage, d)
  | c :: cs => do
    let (stage, d) ← step whole place c stage d
    scan whole (place + c.utf8Size) stage d cs

def finish (text : String) (whole : Bytes) (stage : Stage) (d : Directive) :
    Except Fault Directive := do
  match stage with
  | .name =>
    match Threshold.read? text with
    | some t => return { d with threshold := t }
    | none => return { d with target := some text }
  | .level first => return { d with threshold := ← readLevel (← cut whole first whole.length) }
  | .closed => return d
  | _ => throw .shape

/-- Reads a directive. Blanks around it are passed over to find the places of its parts, but the
parts are cut out of the whole text, at those places. -/
def read (text : String) : Except Fault Directive := do
  let whole := Text.Utf8.encode text
  let (stage, d) ← scan whole 0 .start (everything (.level .trace)) (Text.trim text).toList
  finish text whole stage d

/-- The fields that every event of this program has. -/
def eventFields : List String := ["message"]

def isAbout (d : Directive) (target : String) : Bool :=
  !d.elsewhere && d.target.all (fun name => name.toList.isPrefixOf target.toList) &&
    d.field.all (· ∈ eventFields)

/-- How closely a directive fits the events that it is about: by the length of the name, then by
whether it asks for a field. -/
def closeness (d : Directive) : Nat :=
  2 * d.target.elim 0 (·.length + 1) + d.field.elim 0 fun _ => 1

end Directive

structure Filter where
  directives : List Directive
  deriving DecidableEq, Repr

namespace Filter

/-- The threshold of the closest fit; of equal ones the last. -/
def threshold (f : Filter) (target : String) : Threshold :=
  ((f.directives.filter (·.isAbout target)).foldl
    (fun (best : Nat × Threshold) d =>
      if best.1 ≤ d.closeness then (d.closeness, d.threshold) else best) (0, .off)).2

def admits (f : Filter) (e : Event) : Bool := (f.threshold e.origin.target).admits e.level

/-- Reads directives with commas between them; one that cannot be read is told and left out. -/
def read (text : String) : List Directive × List String :=
  ((text.splitOn ",").filter (· ≠ "")).foldl (fun (acc : List Directive × List String) part =>
    match Directive.read part with
    | .ok d => (acc.1 ++ [d], acc.2)
    | .error e => (acc.1, acc.2 ++ ["ignoring `" ++ part ++ "`: " ++ e.message])) ([], [])

/-- The directives of the environment, or a level for everything if there are none. -/
def ofEnvironment (env : Environment) (level : Level) : Filter × List String :=
  let (directives, notices) := read ((env.text? "RUST_LOG").getD "")
  (⟨if directives.isEmpty then [.everything (.level level)] else directives⟩, notices)

end Filter

end MailRound.Log
