import MailRound.Program.Basic

namespace MailRound.Program

/-- A place below the folder that a run works in, by the names that lead to it; none if it is not
below that folder. -/
abbrev Place := Option (List String)

namespace Place

def step (p : Place) (name : String) : Place :=
  match p with
  | none => none
  | some way =>
    if name = "" ∨ name = "." then some way
    else if name = ".." then (if way = [] then none else some way.dropLast)
    else some (way ++ [name])

/-- All places on a way, with the one it ends at last. -/
def trail (p : Place) : List String → List Place
  | [] => []
  | name :: names => p.step name :: trail (p.step name) names

end Place

def logFolder : String := "logs"

inductive Entry where
  | folder (name : String)
  | log (name : String)
  deriving DecidableEq, Repr

def Entry.name : Entry → String
  | .folder name => name
  | .log name => name

def insertEntry (e : Entry) : List Entry → List Entry
  | [] => [e]
  | f :: es =>
    if e.name < f.name then e :: f :: es else if e = f then f :: es else f :: insertEntry e es

namespace Journal

def fileName (j : Journal) (date : String) : String := j.serviceName ++ ".log." ++ date

/-- A name that begins at the root leaves the folder of logs. -/
def isRooted (j : Journal) : Bool := j.serviceName.toList.head? == some '/'

def path (j : Journal) (date : String) : String :=
  if j.isRooted then j.fileName date else logFolder ++ "/" ++ j.fileName date

def folder (j : Journal) (date : String) : String :=
  "/".intercalate ((j.path date).splitOn "/").dropLast

/-- What stands directly in the folder of logs, in the order of the names. -/
def entries (j : Journal) (date : String) : List Entry :=
  if j.isRooted then []
  else
    let names := (j.fileName date).splitOn "/"
    let places := Place.trail (some [logFolder]) names
    let listed? (make : String → Entry) (p : Place) : Option Entry := match p with
      | some [top, name] => if top = logFolder then some (make name) else none
      | _ => none
    let found := places.dropLast.filterMap (listed? .folder) ++
      (places.getLast?.bind (listed? .log)).toList
    found.foldr insertEntry []

end Journal

end MailRound.Program
