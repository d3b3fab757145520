import RestShell.Session.Loop

/-! The command line of the program. Options of its own come first: the name of a profile
and the version. From the first argument that is none of them on, all arguments are the
words of a command, whatever they look like. -/

namespace RestShell

/-- What the command line asks for: a profile and the words of a command. -/
structure Invocation where
  profile : String := Profile.defaultName
  words : List String := []
deriving DecidableEq, Repr

namespace CommandLine

def versionText : String := "resht 0.1.0"

/-- What an argument is before the words begin. -/
inductive Item where
  /-- The profile option, with its value when that is attached. -/
  | profile (value : Option String)
  /-- The version option, which takes no value. -/
  | version (value : Option String)
  /-- Two dashes: the words begin behind them. -/
  | dashes
  | word
deriving DecidableEq, Repr

/-- The long form of an option, by its name and an attached value. -/
def longItem (name : String) (value : Option String) : Item :=
  match name with
  | "profile" => .profile value
  | "version" => .version value
  | _ => .word

/-- Letters after a single dash; they are options only if every one of them is. -/
def shortItem (letters : List Char) : Item :=
  if !letters.all fun c => c == 'p' || c == 'V' then .word
  else match letters with
    | [] => .word
    | ['p'] => .profile none
    | 'p' :: value => .profile (some (.ofList value))
    | _ => .version none

def Item.ofArgument (arg : String) : Item :=
  match arg.toList with
  | ['-', '-'] => .dashes
  | '-' :: '-' :: r =>
    match Chars.cut '=' r with
    | some (name, value) => longItem (.ofList name) (some (.ofList value))
    | none => longItem (.ofList r) none
  | '-' :: letters => shortItem letters
  | _ => .word

/-- Why no command is run. -/
inductive Stop where
  | version
  | missingProfile
  | repeatedProfile
  | needlessValue (value : String)
deriving DecidableEq, Repr

def usageLine : String := "Usage: resht [OPTIONS] [WORDS]..."

def Stop.code : Stop → Nat
  | .version => 0
  | _ => 2

def Stop.shown : Stop → Shown
  | .version => { out := versionText ++ "\n" }
  | .missingProfile =>
    { err := "error: a value is required for '--profile <PROFILE>' but none was supplied\n" }
  | .repeatedProfile =>
    { err := "error: the argument '--profile <PROFILE>' cannot be used multiple times\n\n" ++
        usageLine ++ "\n" }
  | .needlessValue value =>
    { err := "error: unexpected value '" ++ value ++
        "' for '--version' found; no more were expected\n\n" ++ usageLine ++ "\n" }

/-- Reads arguments behind a profile option that may have been given. A detached value may
look like anything but an option. -/
def readFrom (given : Option String) : List String → Except Stop Invocation
  | [] => .ok { profile := given.getD Profile.defaultName }
  | arg :: rest =>
    match Item.ofArgument arg, rest with
    | .word, _ => .ok ⟨given.getD Profile.defaultName, arg :: rest⟩
    | .dashes, _ => .ok ⟨given.getD Profile.defaultName, rest⟩
    | .version (some value), _ => .error (.needlessValue value)
    | .version none, _ => .error .version
    | .profile (some value), rest =>
      if given.isSome then .error .repeatedProfile else readFrom (some value) rest
    | .profile none, [] => .error .missingProfile
    | .profile none, value :: rest =>
      match Item.ofArgument value with
      | .version (some value) => .error (.needlessValue value)
      | .word => if given.isSome then .error .repeatedProfile else readFrom (some value) rest
      | _ => .error .missingProfile

def read (args : List String) : Except Stop Invocation := readFrom none args

end CommandLine

namespace Invocation

/-- Why an invocation has no session. -/
inductive Fault where
  | profile (e : Profile.Fault)
  | words (e : LineError)
  | url (text : String) (e : Url.Invalid)
deriving DecidableEq

/-- An error with its cause below it. -/
def report (message : String) (cause : Option String) : String :=
  let below (text : String) :=
    "\n\nCaused by:\n" ++ Text.join '\n' ((Text.split '\n' text).map ("    " ++ ·))
  "Error: " ++ message ++ (cause.map below).getD "" ++ "\n"

def Fault.text : Fault → String
  | .profile e => report e.message e.cause?
  | .words e => "! " ++ e.message ++ "\n"
  | .url text e => report ("failed to create HTTP client for " ++ text) (some e.message)

/-- The session of an invocation: the options built in, over them the profile, and over both
the words. -/
def session (i : Invocation) (builtIn : Options) (home : String)
    (profile : Except Profile.Fault Profile) (files : Files) : Except Fault Session := do
  let profile ← profile.mapError .profile
  let (_, options) ← ((builtIn.withProfile home profile).readWords i.words).mapError .words
  (Session.ofOptions options files).mapError (.url options.url)

end Invocation

namespace CommandLine

/-- How the program ends: its exit code, what it wrote and the files it leaves. -/
structure Finish where
  code : Nat
  shown : Shown
  files : Files
deriving DecidableEq

/-- The whole program: the profile comes from a file among `files`. -/
def run (w : World) (home path : String) (files : Files) (args : List String)
    (input : List Chunk) : Finish :=
  match read args with
  | .error stop => ⟨stop.code, stop.shown, files⟩
  | .ok i =>
    match i.session (.builtIn home) home (Profile.load files home path i.profile) files with
    | .error fault => ⟨1, { err := fault.text }, files⟩
    | .ok s =>
      let (last, notices) := s.launch w i.words (Reading.ofChunks input)
      ⟨last.status, shownBy notices, last.files⟩

end CommandLine
end RestShell
