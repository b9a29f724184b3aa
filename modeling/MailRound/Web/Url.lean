import MailRound.Web.Form
import MailRound.Web.Host
import MailRound.Web.Path

namespace MailRound.Web

/-- An address with its parts in the form in which they are sent. Some schemes have addresses whose
host is empty. -/
structure Url where
  scheme : String
  user : String
  password : Option String
  host : Option String
  port : Option Nat
  path : String
  query : Option String
  fragment : Option String
  deriving DecidableEq, Repr

namespace Url

def hasHost (u : Url) : Bool := u.host.any (· ≠ "")

def credentials (u : Url) : String :=
  match u.password with
  | some password => u.user ++ ":" ++ password ++ "@"
  | none => if u.user = "" then "" else u.user ++ "@"

def text (u : Url) : String :=
  let authority := match u.host with
    | some host =>
      "//" ++ u.credentials ++ host ++
        (match u.port with
          | some n => ":" ++ Text.decimal n
          | none => "")
    | none => ""
  let query := match u.query with
    | some q => "?" ++ q
    | none => ""
  let fragment := match u.fragment with
    | some f => "#" ++ f
    | none => ""
  u.scheme ++ ":" ++ authority ++ u.path ++ query ++ fragment

def target (u : Url) : String :=
  u.path ++ (match u.query with
    | some q => "?" ++ q
    | none => "")

def decoded? (s : String) : Option String := Text.Utf8.decode? (percentDecode s.toList)

/-- The address as it is asked for, without name and password. They stay only where they cannot be
read. -/
def withoutCredentials (u : Url) : Url :=
  match decoded? u.user with
  | some user =>
    if user ≠ "" ∨ (u.password.bind decoded?).isSome then { u with user := "", password := none } else u
  | none => u

def defaultPort? : String → Option Nat
  | "http" => some 80
  | "ws" => some 80
  | "https" => some 443
  | "wss" => some 443
  | "ftp" => some 21
  | _ => none

/-- The schemes whose addresses have a host and a path of segments. -/
def isSpecial (scheme : String) : Bool := (defaultPort? scheme).isSome || scheme == "file"

def withQuery (u : Url) (pairs : List (String × String)) : Url :=
  if pairs.isEmpty then u
  else
    let added := Form.text pairs
    { u with query := some (match u.query with
        | some q => if q = "" then added else q ++ "&" ++ added
        | none => added) }

def isSchemeChar (c : Char) : Bool :=
  c.isAlphanum || c == '+' || c == '-' || c == '.'

def splitScheme (cs : List Char) : Option (String × List Char) :=
  match cs with
  | c :: _ =>
    if c.isAlpha then
      let name := cs.takeWhile isSchemeChar
      match cs.drop name.length with
      | ':' :: rest => some (String.ofList (name.map Char.toLower), rest)
      | _ => none
    else none
  | [] => none

def querySpecials (scheme : String) : List Char :=
  if isSpecial scheme then ['"', '#', '<', '>', '\x27'] else ['"', '#', '<', '>']

def fragmentSpecials : List Char := ['"', '<', '>', '\x60']

def userSpecials : List Char :=
  Path.specials ++ ['/', ':', ';', '=', '@', '[', '\\', ']', '^', '|']

/-- What comes before the query, the query and the fragment. -/
def splitTail (cs : List Char) : List Char × Option (List Char) × Option (List Char) :=
  let front := cs.takeWhile (· ≠ '#')
  let fragment := match cs.drop front.length with
    | _ :: rest => some rest
    | [] => none
  let path := front.takeWhile (· ≠ '?')
  let query := match front.drop path.length with
    | _ :: rest => some rest
    | [] => none
  (path, query, fragment)

def bare (scheme : String) (host : Option String) (path : String) : Url :=
  ⟨scheme, "", none, host, none, path, none, none⟩

def withTail (u : Url) (query fragment : Option (List Char)) : Url :=
  { u with
    query := query.map fun cs =>
      String.ofList (percentEncode (safeIn (querySpecials u.scheme)) cs)
    fragment := fragment.map fun cs =>
      String.ofList (percentEncode (safeIn fragmentSpecials) cs) }

/-- Name and password stand before the last at sign; none if there is no at sign. -/
def splitCredentials (cs : List Char) : Option (List Char) × List Char :=
  let host := (cs.reverse.takeWhile (· ≠ '@')).reverse
  if host.length = cs.length then (none, cs)
  else (some (cs.take (cs.length - host.length - 1)), host)

def readCredentials (cs : List Char) : String × Option String :=
  let user := cs.takeWhile (· ≠ ':')
  let password := (cs.drop user.length).drop 1
  let write (cs : List Char) := String.ofList (percentEncode (safeIn userSpecials) cs)
  (write user, if password.isEmpty then none else some (write password))

/-- The port stands after a colon outside of brackets. -/
def splitPort : Bool → List Char → List Char × Option (List Char)
  | _, [] => ([], none)
  | false, ':' :: cs => ([], some cs)
  | _, '[' :: cs => let (h, p) := splitPort true cs; ('[' :: h, p)
  | _, ']' :: cs => let (h, p) := splitPort false cs; (']' :: h, p)
  | inside, c :: cs => let (h, p) := splitPort inside cs; (c :: h, p)

def readPort (scheme : String) (cs : List Char) : Except UrlFault (Option Nat) :=
  if cs.isEmpty then .ok none
  else if cs.all Char.isDigit then
    match Text.readDigits 65536 0 cs with
    | .ok n => .ok (if defaultPort? scheme = some n then none else some n)
    | .error _ => .error .port
  else .error .port

/-- Reads what stands between two slashes and the path: name and password, host and port. The host
may be empty where the scheme does not ask for one and nothing else is there; `followed` tells that
more of the address comes, before which an at sign may not stand alone. -/
def readAuthority (scheme : String) (followed : Bool) (cs : List Char) : Except UrlFault Url :=
  let special := isSpecial scheme
  let (login, hostPort) := splitCredentials cs
  let (user, password) := readCredentials (login.getD [])
  let (host, port) := splitPort false hostPort
  let alone := user = "" ∧ password = none ∧ port = none ∧ (login ≠ some [] ∨ !followed)
  if host.isEmpty && special then .error .emptyHost
  else
    match if special then Host.read host else Host.readOpaque host with
    | .error e => .error e
    | .ok name =>
      if host.isEmpty && !alone then .error .emptyHost
      else
        match readPort scheme (port.getD []) with
        | .error e => .error e
        | .ok port => .ok { bare scheme (some name) "" with user, password, port }

def slashed (c : Char) : Char := if c = '\\' then '/' else c

def afterSlash : List Char → List Char
  | '/' :: cs => cs
  | cs => cs

/-- The part after the scheme of an address with a host: slashes of either kind, then the
authority. -/
def readWeb (scheme : String) (front : List Char) : Except UrlFault Url :=
  let rest := (front.map slashed).dropWhile (· == '/')
  let authority := rest.takeWhile (· ≠ '/')
  match readAuthority scheme true authority with
  | .error e => .error e
  | .ok u => .ok { u with path := Path.read (afterSlash (rest.drop authority.length)) }

def fileOn (name : String) (path : List Char) : Url :=
  let (path, driven) := Path.readFile path
  bare "file" (some (if driven then "" else name)) path

/-- The address of a file: a host may stand after two slashes. -/
def readFile (front : List Char) : Except UrlFault Url :=
  match front.map slashed with
  | '/' :: '/' :: rest =>
    let host := rest.takeWhile (· ≠ '/')
    let path := afterSlash (rest.drop host.length)
    if host.isEmpty then .ok (fileOn "" path)
    else if Path.isDrive host then .ok (fileOn "" rest)
    else
      match Host.read host with
      | .error e => .error e
      | .ok name => .ok (fileOn (if name = "localhost" then "" else name) path)
  | '/' :: rest => .ok (fileOn "" rest)
  | rest => .ok (fileOn "" rest)

/-- Other addresses have a host only after two slashes, and a path of segments only after one. A path
that would begin with two slashes is told from a host by a dot. -/
def readOther (scheme : String) (front : List Char) (hasTail : Bool) : Except UrlFault Url :=
  match front with
  | '/' :: '/' :: rest =>
    let authority := rest.takeWhile (· ≠ '/')
    let path := rest.drop authority.length
    match readAuthority scheme (!path.isEmpty || hasTail) authority with
    | .error e => .error e
    | .ok u => .ok { u with path := if path.isEmpty then "" else Path.read (afterSlash path) }
  | '/' :: rest =>
    let path := Path.read rest
    .ok (bare scheme none (if path.startsWith "//" then "/." ++ path else path))
  | rest =>
    .ok (bare scheme none (String.ofList (percentEncode (fun c => isPlain c || c == ' ') rest)))

def trimmed (cs : List Char) : List Char :=
  let outside (c : Char) : Bool := c.toNat ≤ 0x20
  let cs := cs.dropWhile outside
  ((cs.reverse.dropWhile outside).reverse).filter fun c => c ≠ '\t' && c ≠ '\n' && c ≠ '\r'

/-- Reads an address: blanks around it, and line ends and tabs inside, do not count. -/
def read (s : String) : Except UrlFault Url :=
  match splitScheme (trimmed s.toList) with
  | none => .error .relative
  | some (scheme, rest) =>
    let (front, query, fragment) := splitTail rest
    let parts :=
      if scheme = "file" then readFile front
      else if isSpecial scheme then readWeb scheme front
      else readOther scheme front (query.isSome || fragment.isSome)
    parts.map (·.withTail query fragment)

end Url

end MailRound.Web
