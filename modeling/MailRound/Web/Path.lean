import MailRound.Web.Percent
import MailRound.Web.Domain

namespace MailRound.Web.Path

def specials : List Char := ['"', '#', '<', '>', '?', '\x60', '\x7b', '\x7d']

def isDot (s : List Char) : Bool :=
  [".", "%2e"].contains (String.ofList (s.map Char.toLower))

def isDoubleDot (s : List Char) : Bool :=
  ["..", ".%2e", "%2e.", "%2e%2e"].contains (String.ofList (s.map Char.toLower))

/-- A letter and a colon, for which a bar may stand. -/
def isDrive : List Char → Bool
  | [c, mark] => c.isAlpha && (mark == ':' || mark == '|')
  | _ => false

/-- The segments above, without the last one; a drive letter stays. -/
def parent : List (List Char) → List (List Char)
  | [] => []
  | s :: up => if isDrive s then s :: up else up

/-- Walks along segments. Those so far are held backwards; either kind of dots as the last segment
leaves an empty one behind. -/
def walk (up : List (List Char)) : List (List Char) → List (List Char)
  | [] => up.reverse
  | [s] =>
    if isDoubleDot s then (([] : List Char) :: parent up).reverse
    else if isDot s then (([] : List Char) :: up).reverse
    else (s :: up).reverse
  | s :: rest =>
    if isDoubleDot s then walk (parent up) rest
    else if isDot s then walk up rest
    else walk (s :: up) rest

def segments (cs : List Char) : List (List Char) :=
  (Domain.splitOn '/' cs).map (percentEncode (safeIn specials))

def text (segments : List (List Char)) : List Char := '/' :: ['/'].intercalate segments

def read (cs : List Char) : String := String.ofList (text (walk [] (segments cs)))

/-- Walks along the segments of a file: a drive letter that comes first is written with a colon. The
flag tells that there was one with a bar or a colon. -/
def walkFile (up : List (List Char)) : List (List Char) → List (List Char) × Bool
  | [] => (up.reverse, false)
  | s :: rest =>
    let next := if isDoubleDot s then parent up else if isDot s then up
      else if up.isEmpty && isDrive s then [s.take 1 ++ [':']] else s :: up
    let driven := up.isEmpty && isDrive s
    if rest.isEmpty then
      ((if isDoubleDot s || isDot s then ([] : List Char) :: next else next).reverse, driven)
    else
      let (segments, later) := walkFile next rest
      (segments, driven || later)

/-- The path of a file begins with one slash. The flag tells that it begins with a drive letter, in
which case there is no host. -/
def readFile (cs : List Char) : String × Bool :=
  let (segments, driven) := walkFile [] (segments cs)
  (String.ofList ('/' :: (text segments).dropWhile (· == '/')), driven)

end MailRound.Web.Path
