import RestShell.Files.Tree
import RestShell.Line.Words
import RestShell.Text.Integer

/-! The programs at hand in a working folder: a few that look at files and change them,
and a command interpreter that runs a script line by line. -/

namespace RestShell

/-- How a program ended. -/
inductive Exit where
  | status (code : Nat)
  | signal (number : Nat)
deriving DecidableEq, Repr

namespace Exit

/-- The names of signals, from 1 on. -/
def signalNames : List String :=
  ["HUP", "INT", "QUIT", "ILL", "TRAP", "ABRT", "BUS", "FPE", "KILL", "USR1", "SEGV", "USR2",
    "PIPE", "ALRM", "TERM", "STKFLT", "CHLD", "CONT", "STOP", "TSTP", "TTIN", "TTOU", "URG",
    "XCPU", "XFSZ", "VTALRM", "PROF", "WINCH"]

def signalText (number : Nat) : String :=
  match number with
  | 0 => ""
  | n + 1 => ((signalNames[n]?).map fun name => " (SIG" ++ name ++ ")").getD ""

def text : Exit → String
  | .status code => "exit status: " ++ toString code
  | .signal number => "signal: " ++ toString number ++ signalText number

/-- The code by which a command interpreter knows an ending. -/
def code : Exit → Nat
  | .status code => code
  | .signal number => 128 + number

end Exit

/-- What a program leaves behind. -/
structure Ran where
  files : Files
  out : String := ""
  err : String := ""
  exit : Exit := .status 0
deriving DecidableEq, Repr

/-- The programs that can be run: what a command line does to the files. -/
abbrev Programs := Files → List String → Except FileError Ran

namespace Ran

/-- Two runs, one after the other. -/
def andThen (r : Ran) (next : Files → Ran) : Ran :=
  let s := next r.files
  { s with out := r.out ++ s.out, err := r.err ++ s.err }

def failed (files : Files) (err : String) (code : Nat := 1) : Ran :=
  { files, err := err ++ "\n", exit := .status code }

end Ran

namespace Programs

/-- Applies a step to every operand; the worst ending counts. -/
def forEach (step : Files → String → Ran) : Files → List String → Ran
  | files, [] => { files }
  | files, path :: rest =>
    let r := step files path
    let s := forEach step r.files rest
    { s with
      out := r.out ++ s.out
      err := r.err ++ s.err
      exit := if r.exit.code = 0 then s.exit else r.exit }

/-- The part of a message that names the cause. -/
def cause (e : FileError) : String :=
  (e.message.splitOn " (os error").headD ""

def touch (files : Files) (path : String) : Ran :=
  if files.has path then { files }
  else match files.write true path [] with
    | .ok files => { files }
    | .error e => .failed files ("touch: cannot touch '" ++ path ++ "': " ++ cause e)

def makeFolder (files : Files) (path : String) : Ran :=
  let refuse (why : String) :=
    Ran.failed files ("mkdir: cannot create directory '" ++ path ++ "': " ++ why)
  match files.find path, files.parent path with
  | .ok _, _ => refuse "File exists"
  | _, .error e => refuse (cause e)
  | _, .ok (spot, some name, _) => { files := files.putAt (Files.enter spot name) .folder }
  | _, .ok (_, none, _) => refuse "File exists"
where
  /-- Makes the folders above as well. -/
  deep (files : Files) (path : String) : Ran :=
    let (segments, _, _) := Files.parts path
    let paths := (List.range segments.length).map fun i => Text.join '/' (segments.take (i + 1))
    forEach (fun files path => if files.has path then { files } else makeFolder files path)
      files paths

/-- The keys of a spot and of all that lies in it. -/
def under (files : Files) (spot : Spot) : List String :=
  match spot with
  | .inside (s :: segments) =>
    let key := Files.key (s :: segments)
    files.keys.filter fun k => k == key || Text.hasLead (key ++ "/") k
  | _ => []

def remove (files : Files) (path : String) : Ran :=
  match files.find path with
  | .error e => .failed files ("rm: cannot remove '" ++ path ++ "': " ++ cause e)
  | .ok (_, .folder) => .failed files ("rm: cannot remove '" ++ path ++ "': Is a directory")
  | .ok (spot, .file _) =>
    { files := (under files spot).foldl (fun fs k => Assoc.erase k fs) files }

def removeFolder (files : Files) (path : String) : Ran :=
  let refuse (why : String) :=
    Ran.failed files ("rmdir: failed to remove '" ++ path ++ "': " ++ why)
  match files.find path with
  | .error e => refuse (cause e)
  | .ok (_, .file _) => refuse "Not a directory"
  | .ok (spot, .folder) =>
    match under files spot with
    | [key] => { files := Assoc.erase key files }
    | _ => refuse "Directory not empty"

/-- Where a copy to `path` goes: a file of the source's name in a folder, or the path. -/
def destination (files : Files) (source path : String) : String :=
  match files.find path with
  | .ok (_, .folder) => path ++ "/" ++ ((Text.split '/' source).getLast?.getD "")
  | _ => path

def copy (name : String) (files : Files) (operands : List String) : Ran :=
  match operands with
  | [source, path] =>
    match files.find source with
    | .error e => .failed files (name ++ ": cannot stat '" ++ source ++ "': " ++ cause e)
    | .ok (_, .folder) =>
      .failed files (name ++ ": -r not specified; omitting directory '" ++ source ++ "'")
    | .ok (_, .file content) =>
      match files.write false (destination files source path) content with
      | .ok files => { files }
      | .error e =>
        .failed files (name ++ ": cannot create regular file '" ++ path ++ "': " ++ cause e)
  | _ => .failed files (name ++ ": missing file operand")

/-- Moves a file or a folder with all that lies in it. -/
def move (files : Files) (operands : List String) : Ran :=
  match operands with
  | [source, path] =>
    match files.find source, files.parent (destination files source path) with
    | .error e, _ => .failed files ("mv: cannot stat '" ++ source ++ "': " ++ cause e)
    | .ok (.inside (s :: segments), node), .ok (spot, some name, _) =>
      let key := Files.key (s :: segments)
      match Files.enter spot name with
      | .inside target =>
        let rename (k : String) : String :=
          Files.key target ++ String.ofList (k.toList.drop key.toList.length)
        let moved := under files (.inside (s :: segments))
        match node, files.node? target with
        | .folder, some (.file _) =>
          .failed files ("mv: cannot overwrite non-directory '" ++ path ++ "'")
        | _, _ =>
          if moved.contains (Files.key target) then
            .failed files ("mv: '" ++ source ++ "' and '" ++ path ++ "' are the same file")
          else
            let rest := (Assoc.erase (Files.key target) files).filter fun e => !moved.contains e.1
            let own := files.filter fun e => moved.contains e.1
            { files := rest ++ own.map fun e => (rename e.1, e.2) }
      | .outside _ =>
        let moved := under files (.inside (s :: segments))
        { files := files.filter fun e => !moved.contains e.1 }
    | _, .error e =>
      .failed files ("mv: cannot move '" ++ source ++ "' to '" ++ path ++ "': " ++ cause e)
    | _, _ => .failed files ("mv: cannot move '" ++ source ++ "'")
  | _ => .failed files "mv: missing file operand"

def contents (files : Files) (path : String) : Ran :=
  match files.read path with
  | .ok content => { files, out := Text.ofBytesLossy content }
  | .error e => .failed files ("cat: " ++ path ++ ": " ++ cause e)

/-- The conditions of a test. -/
def holds (files : Files) : List String → Bool
  | ["!", a] => a == ""
  | ["-n", a] => a != ""
  | ["-z", a] => a == ""
  | ["-e", a] => files.has a
  | ["-f", a] => (files.read a).toOption.isSome
  | ["-d", a] =>
    match files.find a with
    | .ok (_, .folder) => true
    | _ => false
  | [a] => a != ""
  | [a, "=", b] => a == b
  | [a, "!=", b] => a != b
  | _ => false

def spaced (words : List String) : String := Text.join ' ' words

/-- Runs a program by its name; `none` when there is no such program. -/
def simple? (files : Files) (name : String) (operands : List String) : Option Ran :=
  let needed (ran : Ran) : Ran :=
    if operands = [] then .failed files (name ++ ": missing operand") else ran
  match name, operands with
  | "true", _ | ":", _ | "sleep", _ => some { files }
  | "false", _ => some { files, exit := .status 1 }
  | "echo", "-n" :: ws => some { files, out := spaced ws }
  | "echo", ws => some { files, out := spaced ws ++ "\n" }
  | "printf", w :: _ => some { files, out := w }
  | "touch", ps => some (needed (forEach touch files ps))
  | "mkdir", "-p" :: ps => some (forEach makeFolder.deep files ps)
  | "mkdir", ps => some (needed (forEach makeFolder files ps))
  | "rmdir", ps => some (needed (forEach removeFolder files ps))
  | "rm", ps => some (needed (forEach remove files ps))
  | "cp", ps => some (copy "cp" files ps)
  | "mv", ps => some (move files ps)
  | "cat", ps => some (forEach contents files ps)
  | "test", ws => some { files, exit := .status (if holds files ws then 0 else 1) }
  | _, _ => none

/-- The words of a script's command before a redirection, and the redirection. -/
def cutRedirect : List String → List String × Option (Bool × String)
  | [] => ([], none)
  | ">" :: path :: _ => ([], some (false, path))
  | ">>" :: path :: _ => ([], some (true, path))
  | w :: r =>
    match w.toList with
    | '>' :: '>' :: p :: ps => ([], some (true, .ofList (p :: ps)))
    | '>' :: p :: ps => ([], some (false, .ofList (p :: ps)))
    | _ => let (ws, target) := cutRedirect r; (w :: ws, target)

/-- The signal of a name or a number. -/
def signal? (word : String) : Option Nat :=
  match Text.index? word with
  | some n => some n
  | none =>
    let i := Exit.signalNames.idxOf word
    if i < Exit.signalNames.length then some (i + 1) else none

/-- Signals that a program passes over unless it says otherwise. -/
def isHarmless (number : Nat) : Bool := [0, 17, 18, 23, 28].contains number

/-- What a script does to itself with the given words behind `kill`. -/
def selfSignal? : List String → Option Nat
  | ["$$"] => some 15
  | ["-s", name, "$$"] => signal? name
  | [flag, "$$"] => (Text.dropLead? "-" flag).bind signal?
  | _ => none

/-- Runs the commands of a script to its end or to one that ends it. -/
def script : List String → Ran → Ran
  | [], r => r
  | line :: rest, r =>
    match splitWords line with
    | .error _ => { r with exit := .status 2 }
    | .ok words =>
      match words with
      | [] => script rest r
      | ["exit"] => r
      | "exit" :: n :: _ => { r with exit := .status ((Text.index? n).getD 2 % 256) }
      | "kill" :: operands =>
        match selfSignal? operands with
        | some n => if isHarmless n then script rest r else { r with exit := .signal n }
        | none => script rest { r with exit := .status 1 }
      | word :: operands =>
        if Text.startsWith '#' word then script rest r
        else
          let (ws, target) := cutRedirect operands
          script rest <| r.andThen fun files =>
            match simple? files word ws, target with
            | none, _ => .failed files ("sh: 1: " ++ word ++ ": not found") 127
            | some s, none => s
            | some s, some (continued, path) =>
              match s.files.write continued path (Text.bytes s.out) with
              | .ok files => { s with files, out := "" }
              | .error e => .failed files ("sh: 1: cannot create " ++ path ++ ": " ++ cause e) 2

/-- The lines of a script; a semicolon ends a command as a newline does. -/
def scriptLines (content : Bytes) : List String :=
  ((Text.split '\n' (Text.ofBytesLossy content)).flatMap (Text.split ';')).map Text.trim

/-- The command interpreter with a script to run. -/
def interpreter (files : Files) (operands : List String) : Ran :=
  match operands with
  | [] => { files }
  | path :: _ =>
    match files.read path with
    | .ok content => script (scriptLines content) { files }
    | .error e => .failed files ("sh: 0: cannot open " ++ path ++ ": " ++ cause e) 2

/-- Folders in which programs are found. -/
def folders : List String := ["/bin/", "/usr/bin/"]

/-- The programs of a plain system. A name with a slash is a path; the files of the
working folder cannot be executed. -/
def standard : Programs := fun files words =>
  match words with
  | [] => .error .notFound
  | word :: operands =>
    if words.any (Text.has '\x00') then .error .zeroArgument
    else
      let name := (folders.filterMap fun f => Text.dropLead? f word).headD word
      if Text.has '/' name then
        match files.find name with
        | .ok _ => .error .denied
        | .error e => .error e
      else if name = "sh" then .ok (interpreter files operands)
      else match simple? files name operands with
        | some r => .ok r
        | none => .error .notFound

end Programs
end RestShell
