import MailRound.Json.Node
import MailRound.Json.Print
import MailRound.Json.Scan

namespace MailRound.Json

/-- Reads a node, with so many containers still allowed inside one another. -/
abbrev Reader (α : Type) := Nat → Node → Except Fault α

namespace Reader

def text : Reader String
  | _, .string token => token.text
  | _, node => node.mismatch "a string"

def bool : Reader Bool
  | _, .bool b => .ok b
  | _, node => node.mismatch "a boolean"

def unsigned (name : String) (bound : Nat) : Reader Nat
  | _, .number (.ok (.int n)) =>
    if 0 ≤ n ∧ n < bound then .ok n.toNat else .error (.invalidValue (.int n) name)
  | _, node => node.mismatch name

def byte : Reader UInt8 := fun depth node =>
  (unsigned "u8" 256 depth node).map UInt8.ofNat

def nat32 : Reader Nat := unsigned "u32" Text.limit32

def nat64 : Reader Nat := unsigned "u64" Text.limit64

def option (r : Reader α) : Reader (Option α)
  | _, .null => .ok none
  | depth, node => (r depth node).map some

def value : Reader Json := Node.value

def items (r : Reader α) (depth : Nat) : List Node → Except Fault (List α)
  | [] => .ok []
  | n :: ns =>
    match r depth n with
    | .error e => .error e
    | .ok a => match items r depth ns with
      | .error e => .error e
      | .ok as => .ok (a :: as)

def list (r : Reader α) : Reader (List α)
  | depth, .array nodes close =>
    match depth with
    | 0 => .error .tooDeep
    | d + 1 =>
      match items r d nodes with
      | .error e => .error e
      | .ok as => match close with
        | some fault => .error fault
        | none => .ok as
  | _, node => node.mismatch "a sequence"

def members : Reader Members
  | depth, .object ms close =>
    match depth with
    | 0 => .error .tooDeep
    | d + 1 =>
      match valueMembers d ms [] with
      | .error e => .error e
      | .ok out => match close with
        | some fault => .error fault
        | none => .ok out
  | _, node => node.mismatch "a map"

/-- One of some names, written as a string or as the key of an object with the value null. -/
def variant (names : List (String × α)) : Reader α
  | _, .string token =>
    match token.text with
    | .error e => .error e
    | .ok s => pick s
  | 0, .object _ _ => .error .tooDeep
  | _ + 1, .object [] close =>
    match close with
    | some .eofObject => .error .eofValue
    | some .keyNotString => .error .keyNotString
    | _ => .error .expectedValue
  | _ + 1, .object ((key, node) :: more) close =>
    match key.text with
    | .error e => .error e
    | .ok s =>
      match pick s with
      | .error e => .error e
      | .ok a =>
        match node with
        | .null =>
          match more, close with
          | [], none => .ok a
          | [], some .eofObject => .error .eofObject
          | _, _ => .error .expectedValue
        | other => other.mismatch "unit"
  | _, .broken fault => .error fault
  | _, _ => .error .expectedValue
where
  pick (s : String) : Except Fault α :=
    match names.find? (·.1 = s) with
    | some (_, a) => .ok a
    | none => .error (.unknownVariant s (names.map Prod.fst))

end Reader

/-- A field that a record knows, and the check of what is given for it. -/
structure Slot where
  name : String
  check : Nat → Node → Except Fault Unit

/-- Where the values of the fields come from. -/
structure Source where
  depth : Nat
  get? : String → Option Node
  /-- The fault for a field that has to be there, by its place among the fields. -/
  absent : String → Nat → Fault
  /-- Whether a field that may be null may also be left out. -/
  sparse : Bool

/-- A record: its fields in order, and how its value is put together. -/
structure Record (α : Type) where
  slots : List Slot
  build : Nat → Source → Except Fault α

namespace Record

def slot (name : String) (r : Reader α) : Slot :=
  ⟨name, fun depth node => (r depth node).map fun _ => ()⟩

/-- A field that has to be there. -/
def required (name : String) (r : Reader α) : Record α :=
  ⟨[slot name r], fun place src => match src.get? name with
    | some node => r src.depth node
    | none => .error (src.absent name place)⟩

/-- A field that may be null, or left out of an object. -/
def nullable (name : String) (r : Reader α) : Record (Option α) :=
  ⟨[slot name (Reader.option r)], fun place src => match src.get? name with
    | some node => Reader.option r src.depth node
    | none => if src.sparse then .ok none else .error (src.absent name place)⟩

/-- A field with a value for when it is left out. -/
def withDefault (name : String) (r : Reader α) (d : α) : Record α :=
  ⟨[slot name r], fun _ src => match src.get? name with
    | some node => r src.depth node
    | none => .ok d⟩

def optional (name : String) (r : Reader α) : Record (Option α) :=
  withDefault name (Reader.option r) none

def app (f : Record (α → β)) (a : Record α) : Record β :=
  ⟨f.slots ++ a.slots, fun place src =>
    match f.build place src with
    | .error e => .error e
    | .ok g => match a.build (place + f.slots.length) src with
      | .error e => .error e
      | .ok x => .ok (g x)⟩

def map (f : α → β) (a : Record α) : Record β :=
  ⟨a.slots, fun place src => (a.build place src).map f⟩

def findSlot? (slots : List Slot) (name : String) : Option Slot :=
  slots.find? (·.name = name)

/-- Checks the members of an object in their order. A field is given once; the values of other
members are given to `foreign`. -/
def checkMembers (foreign : Node → Except Fault Unit) (slots : List Slot) (depth : Nat) :
    List String → List (Quoted × Node) → Except Fault Unit
  | _, [] => .ok ()
  | seen, (key, node) :: ms =>
    match key.text with
    | .error e => .error e
    | .ok k =>
      match findSlot? slots k with
      | none => match foreign node with
        | .error e => .error e
        | .ok () => checkMembers foreign slots depth seen ms
      | some s =>
        if k ∈ seen then .error (.duplicateField k)
        else match s.check depth node with
          | .error e => .error e
          | .ok () => checkMembers foreign slots depth (k :: seen) ms

def lookup (name : String) : List (Quoted × Node) → Option Node
  | [] => none
  | (key, node) :: ms =>
    match key.text with
    | .ok k => if k = name then some node else lookup name ms
    | .error _ => lookup name ms

def checkPlaces (depth : Nat) : List Slot → List Node → Except Fault Unit
  | s :: ss, n :: ns =>
    match s.check depth n with
    | .error e => .error e
    | .ok () => checkPlaces depth ss ns
  | _, _ => .ok ()

def placeOf (name : String) : List Slot → List Node → Option Node
  | s :: ss, n :: ns => if s.name = name then some n else placeOf name ss ns
  | _, _ => none

/-- The fault of an array that has more in it than the record has fields. -/
def surplus (count : Nat) (items : List Node) (close : Option Fault) : Except Fault Unit :=
  if count < items.length then .error .trailingCharacters
  else match close with
    | none => .ok ()
    | some .trailingComma => .error .trailingComma
    | some .eofList => .error .eofList
    | some _ => .error .trailingCharacters

def objectSource (depth : Nat) (ms : List (Quoted × Node)) : Source :=
  ⟨depth, fun name => lookup name ms, fun name _ => .missingField name, true⟩

def arraySource (title : String) (depth : Nat) (slots : List Slot) (ns : List Node) : Source :=
  ⟨depth, fun name => placeOf name slots ns,
    fun _ place => .invalidLength place
      ("struct " ++ title ++ " with " ++ Text.decimal slots.length ++ " elements"), false⟩

def readObject (r : Record α) (depth : Nat) (ms : List (Quoted × Node)) (close : Option Fault) :
    Except Fault α :=
  match checkMembers Node.skip r.slots depth [] ms with
  | .error e => .error e
  | .ok () => match close with
    | some fault => .error fault
    | none => r.build 0 (objectSource depth ms)

def readArray (title : String) (r : Record α) (depth : Nat) (ns : List Node)
    (close : Option Fault) : Except Fault α :=
  match checkPlaces depth r.slots ns with
  | .error e => .error e
  | .ok () =>
    let early := if ns.length < r.slots.length then close else none
    match early with
    | some fault => .error fault
    | none => match r.build 0 (arraySource title depth r.slots ns) with
      | .error e => .error e
      | .ok a => (surplus r.slots.length ns close).map fun _ => a

def reader (title : String) (r : Record α) : Reader α
  | depth, .object ms close =>
    match depth with
    | 0 => .error .tooDeep
    | d + 1 => r.readObject d ms close
  | depth, .array ns close =>
    match depth with
    | 0 => .error .tooDeep
    | d + 1 => r.readArray title d ns close
  | _, node => node.mismatch ("struct " ++ title)

def foreignMembers (slots : List Slot) (ms : List (Quoted × Node)) : List (Quoted × Node) :=
  ms.filter fun m => match m.1.text with
    | .ok k => (findSlot? slots k).isNone
    | .error _ => false

/-- The reader of a record that keeps all other members of its object. -/
def openReader (title : String) (r : Record (Members → α)) : Reader α
  | 0, .object _ _ => .error .tooDeep
  | d + 1, .object ms close =>
    match checkMembers (fun node => (node.value d).map fun _ => ()) r.slots d [] ms with
    | .error e => .error e
    | .ok () => match close with
      | some fault => .error fault
      | none => match r.build 0 (objectSource d ms) with
        | .error e => .error e
        | .ok f => (valueMembers d (foreignMembers r.slots ms) []).map f
  | _, node => node.mismatch ("struct " ++ title)

end Record

def readText (r : Reader α) (text : String) : Except Fault α :=
  (Document.scan text).read r

end MailRound.Json
