import MailRound.Program.Folder
import MailRound.Program.Lines
import Std.Time.DateTime.Timestamp

namespace MailRound.Main

/-- The variables that the program looks at by itself. -/
def knownVariables : List String :=
  ["LOG_LEVEL", "LOG_FORMAT", "RUST_LOG", "POLL_MAX_COUNT", "POLL_INTERVAL", "POLL_MAX_EMAILS"]

/-- All words of a settings file, which may be names of variables. -/
def words (text : String) : List String :=
  (text.toList.foldr (fun c (acc : List (List Char)) =>
    if Dotenv.isKeyChar c then
      match acc with
      | w :: ws => (c :: w) :: ws
      | [] => [[c]]
    else [] :: acc) [[]]).filterMap fun w => if w.isEmpty then none else some (String.ofList w)

def environment (names : List String) : IO Environment := do
  let pairs ← names.mapM fun name => do
    let value ← IO.getEnv name
    return value.map fun v => (name, Text.Utf8.encode v)
  return ⟨pairs.filterMap id⟩

def readBytes (path : String) : IO (Except FileFault Bytes) := do
  try
    let bytes ← IO.FS.readBinFile path
    return .ok bytes.toList
  catch e =>
    match e with
    | .noFileOrDirectory .. => return .error .missing
    | .inappropriateType .. => return .error .directory
    | e => return .error (.other (toString e))

def readText? (path : String) : IO (Option String) := do
  match ← readBytes path with
  | .ok bytes => return Text.Utf8.decode? bytes
  | .error _ => return none

def now : IO Calendar.Instant := do
  let t ← Std.Time.Timestamp.now
  return ⟨t.val.second.val, t.val.nano.val.toNat⟩

def write (journal : Program.Journal) (clock : Calendar.Instant) : IO Unit := do
  let stamp := clock.text
  IO.print (journal.console stamp)
  let date := String.ofList (stamp.toList.takeWhile (· ≠ 'T'))
  IO.FS.createDirAll (journal.folder date)
  IO.FS.withFile (journal.path date) .append fun file =>
    file.putStr (journal.file stamp)

end MailRound.Main

open MailRound in
def main (arguments : List String) : IO UInt32 := do
  let dotenv ← Main.readText? ".env"
  let env ← Main.environment (Main.knownVariables ++ Main.words (dotenv.getD ""))
  let content ← match CommandLine.read arguments with
    | .ok command => Main.readBytes command.config
    | .error _ => pure (.error .missing)
  let clock ← Main.now
  let (ending, _) := Program.run Network.isolated ()
    ⟨arguments, env, dotenv, fun _ => content, clock⟩
  IO.print ending.output
  IO.eprint ending.errors
  if let some journal := ending.journal then
    Main.write journal clock
  return UInt32.ofNat ending.code
