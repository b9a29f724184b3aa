namespace MailRound

/-- A value of the JSON data model. Whole numbers are kept apart from binary fractions, which are
held by their bit pattern; the members of an object stand in the order of their keys. -/
inductive Json where
  | null
  | bool (b : Bool)
  | int (n : Int)
  | float (bits : UInt64)
  | str (s : String)
  | arr (items : List Json)
  | obj (members : List (String × Json))
  deriving Inhabited, Repr

namespace Json

abbrev Members := List (String × Json)

def ofNat (n : Nat) : Json := .int n

def ofOption (f : α → Json) : Option α → Json
  | none => .null
  | some a => f a

def ofList (f : α → Json) (as : List α) : Json :=
  .arr (as.map f)

def ofText (s : Option String) : Json :=
  ofOption .str s

namespace Members

def get? : Members → String → Option Json
  | [], _ => none
  | (k, v) :: ms, key => if k = key then some v else get? ms key

def has (ms : Members) (key : String) : Bool :=
  (ms.get? key).isSome

/-- Puts a member at its place; an earlier value of the key is replaced. -/
def insert (key : String) (value : Json) : Members → Members
  | [] => [(key, value)]
  | (k, v) :: ms =>
    if key = k then (key, value) :: ms
    else if key < k then (key, value) :: (k, v) :: ms
    else (k, v) :: insert key value ms

def ofList (ms : List (String × Json)) : Members :=
  ms.foldl (fun acc m => acc.insert m.1 m.2) []

/-- The keys grow from left to right. -/
def Sorted (ms : Members) : Prop :=
  (ms.map Prod.fst).Pairwise (· < ·)

end Members

def object (ms : List (String × Json)) : Json :=
  .obj (Members.ofList ms)

def asText? : Json → Option String
  | .str s => some s
  | _ => none

def asItems? : Json → Option (List Json)
  | .arr items => some items
  | _ => none

mutual

/-- Every object inside has its keys in order. -/
def Canonical : Json → Prop
  | .arr items => CanonicalItems items
  | .obj ms => Members.Sorted ms ∧ CanonicalMembers ms
  | _ => True

def CanonicalItems : List Json → Prop
  | [] => True
  | j :: js => Canonical j ∧ CanonicalItems js

def CanonicalMembers : List (String × Json) → Prop
  | [] => True
  | (_, j) :: ms => Canonical j ∧ CanonicalMembers ms

end

end Json

end MailRound
