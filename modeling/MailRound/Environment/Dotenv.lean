import MailRound.Environment.Basic
import MailRound.Text.Alphanumeric
import MailRound.Text.Blank

namespace MailRound.Dotenv

/-- Values that lines before have given, which later lines may refer to. -/
abbrev Given := List (String × String)

structure State where
  strong : Bool
  weak : Bool
  escaped : Bool
  ended : Bool
  reference : Option Bool
  name : List Char
  out : List Char
  deriving Repr

def State.start : State := ⟨false, false, false, false, none, [], []⟩

/-- The value a reference stands for; the environment wins over earlier lines. -/
def resolve (env : Environment) (given : Given) (name : String) : List Char :=
  match env.text? name with
  | some v => v.toList
  | none => match given.find? (·.1 = name) with
    | some (_, v) => v.toList
    | none => []

def State.settle (st : State) (env : Environment) (given : Given) : State :=
  { st with
    out := (resolve env given (String.ofList st.name.reverse)).reverse ++ st.out
    name := []
    reference := none }

/-- One character of a value: the next state, the end of the value, or a line that cannot be
read. -/
def step (env : Environment) (given : Given) (st : State) (c : Char) : Option (Bool × State) :=
  let go (st : State) := some (true, st)
  if st.ended then
    if c = ' ' ∨ c = '\t' then go st else if c = '#' then some (false, st) else none
  else if st.escaped then
    if c ∈ ['\\', '\x27', '"', '$', ' '] then go { st with escaped := false, out := c :: st.out }
    else if c = 'n' then go { st with escaped := false, out := '\n' :: st.out }
    else none
  else if st.strong then
    if c = '\x27' then go { st with strong := false } else go { st with out := c :: st.out }
  else
    match st.reference with
    | some braced =>
      if Text.isAlphanumeric c then go { st with name := c :: st.name }
      else if braced then
        if c = '\x7d' then go (st.settle env given) else go { st with name := c :: st.name }
      else if c = '\x7b' ∧ st.name = [] then go { st with reference := some true }
      else
        let st := st.settle env given
        if c = '$' then go { st with reference := some false } else go { st with out := c :: st.out }
    | none =>
      if c = '$' then go { st with reference := some false }
      else if st.weak then
        if c = '"' then go { st with weak := false }
        else if c = '\\' then go { st with escaped := true }
        else go { st with out := c :: st.out }
      else if c = '\x27' then go { st with strong := true }
      else if c = '"' then go { st with weak := true }
      else if c = '\\' then go { st with escaped := true }
      else if c = ' ' ∨ c = '\t' then go { st with ended := true }
      else go { st with out := c :: st.out }

def readValue (env : Environment) (given : Given) (st : State) : List Char → Option String
  | [] =>
    if st.reference = some true ∨ st.strong ∨ st.weak then none
    else
      let st := if st.reference.isSome then st.settle env given else st
      some (String.ofList st.out.reverse)
  | c :: cs =>
    match step env given st c with
    | none => none
    | some (true, st) => readValue env given st cs
    | some (false, st) => readValue env given st []

def isKeyStart (c : Char) : Bool := c.isAlpha || c == '_'

def isKeyChar (c : Char) : Bool := c.isAlphanum || c == '_' || c == '.'

def readKey? (cs : List Char) : Option (String × List Char) :=
  match cs with
  | c :: _ =>
    if isKeyStart c then
      some (String.ofList (cs.takeWhile isKeyChar), Text.trimStart (cs.dropWhile isKeyChar))
    else none
  | [] => none

/-- The name that a line sets and the text after its equals sign. The word `export` may stand
before the name. -/
def readName? (cs : List Char) : Option (String × List Char) :=
  match readKey? cs with
  | none => none
  | some (key, '=' :: rest) => some (key, Text.trimStart rest)
  | some (key, rest) =>
    if key = "export" then
      match readKey? rest with
      | some (name, '=' :: rest) => some (name, Text.trimStart rest)
      | _ => none
    else none

inductive Line where
  | blank
  | setting (name value : String)
  | unreadable
  deriving DecidableEq, Repr

def readLine (env : Environment) (given : Given) (line : List Char) : Line :=
  let cs := Text.trimStart (Text.trimEnd line)
  let void (cs : List Char) : Bool := cs.isEmpty || cs.head? == some '#'
  if void cs then .blank
  else match readName? cs with
    | none => .unreadable
    | some (name, rest) =>
      if void rest then .setting name ""
      else match readValue env given .start rest with
        | some value => .setting name value
        | none => .unreadable

def loadLines (env : Environment) (given : Given) : List (List Char) → Environment
  | [] => env
  | line :: lines =>
    match readLine env given line with
    | .blank => loadLines env given lines
    | .unreadable => env
    | .setting name value =>
      let env' := if (env.text? name).isSome then env else env.set name value
      loadLines env' ((name, value) :: given) lines

def splitLines (text : String) : List (List Char) :=
  (text.splitOn "\n").map String.toList

def load (env : Environment) : Option String → Environment
  | none => env
  | some text => loadLines env [] (splitLines text)

end MailRound.Dotenv
