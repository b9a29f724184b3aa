import MailRound.Text.Canonical
import MailRound.Web.Domain.Direction
import MailRound.Web.Domain.Joining
import MailRound.Web.Domain.Mapping
import MailRound.Web.Percent
import MailRound.Web.Punycode

namespace MailRound.Web.Domain

def isReserved (c : Char) : Bool :=
  isControl c || [' ', '#', '%', '/', ':', '<', '>', '?', '@', '[', '\\', ']', '^', '|'].contains c

/-- The characters of a name in their plain form; none if one is not allowed. -/
def plain? (cs : List Char) : Option (List Char) :=
  (cs.mapM written?).map fun parts => Text.Canonical.compose parts.flatten

def isAscii (cs : List Char) : Bool := cs.all (·.toNat < 128)

/-- The label behind one that is written in plain letters. It has to be one that is written so: with
other characters than ASCII, and in its plain form. -/
def behind? (cs : List Char) : Option (List Char) :=
  if isAscii cs then
    match Punycode.decode? cs with
    | some label =>
      if isAscii label || plain? label != some label || label.any isReserved then none
      else some label
    | none => none
  else none

def label? : List Char → Option (List Char)
  | 'x' :: 'n' :: '-' :: '-' :: cs => behind? cs
  | cs => some cs

def isSound (label : List Char) : Bool :=
  !((label.head?.map (Text.inRanges markRanges)).getD false) && keepsJoiners [] label

def splitOn (mark : Char) : List Char → List (List Char)
  | [] => [[]]
  | c :: cs =>
    if c = mark then [] :: splitOn mark cs
    else match splitOn mark cs with
      | part :: parts => (c :: part) :: parts
      | [] => [[c]]

/-- The name as it is sent; none if it is not well formed. -/
def toAscii? (cs : List Char) : Option (List Char) := do
  let name ← plain? cs
  let labels ← (splitOn '.' name).mapM label?
  let bidirectional := labels.any (·.any runsRight)
  if name.any isReserved || !labels.all isSound || (bidirectional && !labels.all keepsDirection) then
    none
  else return ['.'].intercalate (labels.map Punycode.label)

end MailRound.Web.Domain
