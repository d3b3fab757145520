import RestShell.Client.Refusal
import RestShell.CommandLine

/-! The program. It has no network: a request that can be sent at all finds nobody. The
programs that `sh` runs work in a folder of the session's own. Profile and history are
files of the system. -/

namespace RestShell

def put (s : Shown) : IO Unit := do
  let out ← IO.getStdout
  out.putStr s.out
  out.flush
  (← IO.getStderr).putStr s.err

/-- The bytes of a file, or why they cannot be read. -/
def readFile (path : String) : IO (Except FileError Bytes) := do
  try
    return .ok (← IO.FS.readBinFile path).toList
  catch
    | .noFileOrDirectory .. => return .error .notFound
    | .permissionDenied .. => return .error .denied
    | _ => return .error .isFolder

/-- The profile of a name in the settings file at a path. -/
def loadProfile (home path name : String) : IO (Except Profile.Fault Profile) := do
  let path := expandHome home path
  match ← readFile path with
  | .error .notFound => return .ok {}
  | content => return Profile.ofFile path name content

/-- Adds a line to the history file; a history that cannot be written is left. -/
def keepHistory (path line : String) : IO Unit := do
  if let some entry := Session.historyEntry? (Session.lineText line) then
    try
      (← IO.FS.Handle.mk path .append).putStr entry
    catch _ => pure ()

/-- The next line of the input; nothing at its end. -/
def readInput : IO (Option Reading) := do
  try
    let line ← (← IO.getStdin).getLine
    return if line.isEmpty then none else some (.line line)
  catch _ => return some (.failure .other)

/-- Turns of the loop until one is the last. -/
partial def converse (w : World) (s : Session) (restarted : Bool) : IO Session := do
  put (Notice.prompt s.prompt).shown
  let reading ← readInput
  if let some (.line text) := reading then keepHistory s.options.histfile text
  let t := s.turn w restarted reading
  put (shownBy t.notices)
  if t.ended then return t.session else converse w t.session t.restarted

/-- Runs the words of an invocation, and the loop behind them in a shell. -/
def runSession (w : World) (s : Session) (words : List String) : IO Session := do
  let first := s.runWords w words (s.options.shell || s.options.verbose)
  put (shownBy first.notices)
  if s.options.shell && first.flow = .next then converse w first.session false
  else return first.session

def runProgram (args : List String) : IO UInt32 := do
  match CommandLine.read args with
  | .error stop =>
    put stop.shown
    return .ofNat stop.code
  | .ok i =>
    let home := (← IO.getEnv "HOME").getD "/"
    let profile ← loadProfile home (Profile.chosenPath (← IO.getEnv "RESHT_PROFILE_PATH")) i.profile
    let builtIn := { Options.builtIn home with color := ← (← IO.getStdout).isTty }
    match i.session builtIn home profile [] with
    | .error fault =>
      put { err := fault.text }
      return 1
    | .ok s => return .ofNat (← runSession { transport := .unreachable } s i.words).status

end RestShell

def main (args : List String) : IO UInt32 := RestShell.runProgram args
