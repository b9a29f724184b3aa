import MailRound.Json.Basic
import MailRound.Json.Fault

namespace MailRound.Json

inductive Number where
  | int (n : Int)
  | float (bits : UInt64)
  deriving DecidableEq, Repr

/-- A string of the document: its text, and what ends the document inside of it if anything does.
A string that is passed over is not decoded, so that a fault of `text` alone does not matter
then. -/
structure Quoted where
  text : Except Fault String
  fault : Option Fault
  deriving Repr

/-- A node of the tree. A word such as `null` that is cut off or misspelt is told from other faults,
since a reader may refuse it by its first letter. -/
inductive Node where
  | null
  | bool (b : Bool)
  | number (value : Except Fault Number)
  | string (token : Quoted)
  | array (items : List Node) (close : Option Fault)
  | object (members : List (Quoted × Node)) (close : Option Fault)
  | misspelt (fault : Fault)
  | broken (fault : Fault)
  deriving Inhabited, Repr

def Number.toJson : Number → Json
  | .int n => .int n
  | .float bits => .float bits

def Number.found : Number → Found
  | .int n => .int n
  | .float bits => .float bits

def Node.found : Node → Except Fault Found
  | .null => .ok .null
  | .bool b => .ok (.bool b)
  | .number value => value.map Number.found
  | .string token => token.text.map .str
  | .array _ _ => .ok .sequence
  | .object _ _ => .ok .map
  | .misspelt fault => .error fault
  | .broken fault => .error fault

def Node.mismatch (expected : String) (node : Node) : Except Fault α :=
  match node.found with
  | .ok found => .error (.invalidType found expected)
  | .error fault => .error fault

def depthLimit : Nat := 127

mutual

/-- The value of a node, with `depth` containers still allowed inside one another. -/
def Node.value (depth : Nat) : Node → Except Fault Json
  | .null => .ok .null
  | .bool b => .ok (.bool b)
  | .number value => value.map Number.toJson
  | .string token => token.text.map .str
  | .array items close =>
    match depth with
    | 0 => .error .tooDeep
    | d + 1 =>
      match valueItems d items with
      | .error e => .error e
      | .ok vs => match close with
        | some fault => .error fault
        | none => .ok (.arr vs)
  | .object members close =>
    match depth with
    | 0 => .error .tooDeep
    | d + 1 =>
      match valueMembers d members [] with
      | .error e => .error e
      | .ok ms => match close with
        | some fault => .error fault
        | none => .ok (.obj ms)
  | .misspelt fault => .error fault
  | .broken fault => .error fault

def valueItems (depth : Nat) : List Node → Except Fault (List Json)
  | [] => .ok []
  | n :: ns =>
    match Node.value depth n with
    | .error e => .error e
    | .ok v => match valueItems depth ns with
      | .error e => .error e
      | .ok vs => .ok (v :: vs)

/-- Of a repeated key the last value stays. -/
def valueMembers (depth : Nat) : List (Quoted × Node) → Members → Except Fault Members
  | [], acc => .ok acc
  | (key, n) :: ns, acc =>
    match key.text with
    | .error e => .error e
    | .ok k => match Node.value depth n with
      | .error e => .error e
      | .ok v => valueMembers depth ns (acc.insert k v)

end

def skipFault : Option Fault → Except Fault Unit
  | none => .ok ()
  | some fault => .error fault

mutual

/-- Passes over a node that nobody asks for: it has to be well-formed, but may be nested at any
depth, hold numbers of any size and strings that cannot be decoded. -/
def Node.skip : Node → Except Fault Unit
  | .null => .ok ()
  | .bool _ => .ok ()
  | .number (.ok _) => .ok ()
  | .number (.error .numberOutOfRange) => .ok ()
  | .number (.error _) => .error .invalidNumber
  | .string token => skipFault token.fault
  | .array items close =>
    match skipItems items with
    | .error e => .error e
    | .ok () => match close with
      | some .trailingComma => .error .expectedValue
      | other => skipFault other
  | .object members close =>
    match skipMembers members with
    | .error e => .error e
    | .ok () => match close with
      | some .trailingComma => .error .keyNotString
      | some .eofValue => .error .eofObject
      | other => skipFault other
  | .misspelt fault => .error fault
  | .broken fault => .error fault

def skipItems : List Node → Except Fault Unit
  | [] => .ok ()
  | n :: ns =>
    match Node.skip n with
    | .error e => .error e
    | .ok () => skipItems ns

def skipMembers : List (Quoted × Node) → Except Fault Unit
  | [] => .ok ()
  | (key, n) :: ns =>
    match skipFault key.fault with
    | .error e => .error e
    | .ok () => match Node.skip n with
      | .error e => .error e
      | .ok () => skipMembers ns

end

mutual

def toNode : Json → Node
  | .null => .null
  | .bool b => .bool b
  | .int n => .number (.ok (.int n))
  | .float bits => .number (.ok (.float bits))
  | .str s => .string ⟨.ok s, none⟩
  | .arr items => .array (toNodes items) none
  | .obj ms => .object (toMemberNodes ms) none

def toNodes : List Json → List Node
  | [] => []
  | j :: js => toNode j :: toNodes js

def toMemberNodes : List (String × Json) → List (Quoted × Node)
  | [] => []
  | (k, j) :: ms => (⟨.ok k, none⟩, toNode j) :: toMemberNodes ms

end

end MailRound.Json
