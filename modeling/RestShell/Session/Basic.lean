import RestShell.Client.Basic
import RestShell.Display.Notice
import RestShell.Files.Programs
import RestShell.Line.Projection
import RestShell.Settings.Options

/-! Sessions. A session holds its options, the client, the working path, variables that go
out with every request, and values captured from responses. The two stores never reach
into each other: values move between them by explicit commands only. -/

namespace RestShell

open Json

/-- What a session is connected to. -/
structure World where
  transport : Transport
  programs : Programs := .standard

structure Session where
  options : Options
  client : Client
  place : Location := .root
  /-- Defaults for the parameters of every request. -/
  vars : Assoc Value := []
  /-- Values captured from responses. -/
  data : Assoc Value := []
  files : Files := []
  /-- 0 when the last command succeeded, 1 otherwise. -/
  status : Nat := 0
deriving DecidableEq

/-- Whether more lines are read after a command. -/
inductive Flow where
  | next
  | quit
deriving DecidableEq, Repr

inductive ShellError where
  | line (e : LineError)
  | unrecognized (command : String)
  | path (e : Path.OutOfBounds)
  | client (e : ClientError)
  | file (e : FileError)
deriving DecidableEq

def ShellError.message : ShellError → String
  | .line e => e.message
  | .unrecognized command =>
    "Unrecognized command: \"" ++ command ++ "\". Enter \"help\" for help."
  | .path e => e.message
  | .client e => e.message
  | .file e => "I/O error: " ++ e.message

def ShellError.syntaxFault (f : SyntaxFault) : ShellError := .line (.grammar f)

/-- What a command comes to: the session after it, what it showed, and whether it failed
or how to go on. -/
structure Outcome where
  session : Session
  notices : List Notice := []
  result : Except ShellError Flow := .ok .next

namespace Session

/-- A new session; the base URL of the options has to be good. -/
def ofOptions (options : Options) (files : Files) : Except Url.Invalid Session :=
  (Url.read options.url).map fun base =>
    { options, files
      client := { base, insecure := options.insecure, credential := options.credential } }

def prompt (s : Session) : String :=
  promptText s.client.base.text s.place.current s.options.color

/-- The arguments that words have in this session. -/
def arguments (s : Session) (words : List String) : Except LineError Arguments :=
  Arguments.read s.data s.options.color s.options.formatted words

/-- The style that a command's arguments ask for. -/
def style (s : Session) (a : Arguments) : Style :=
  ⟨a.formatted, a.color, a.invert || s.options.invert⟩

end Session
end RestShell
