import RestShell.Files.Tree
import RestShell.Settings.Ini
import RestShell.Text.Case

/-! Profiles. A profile is one section of the settings file; what it does not set stays
as it is, and a missing file or section sets nothing. -/

namespace RestShell

/-- A path with a leading `~` replaced by the home folder, when a slash or nothing
follows it. -/
def expandHome (home path : String) : String :=
  match path.toList with
  | ['~'] => home
  | '~' :: '/' :: r => home ++ .ofList ('/' :: r)
  | _ => path

/-- A yes or a no in one of four spellings each, case and blanks aside. -/
def readFlag? (text : String) : Option Bool :=
  match Text.asciiLower (Text.trim text) with
  | "1" | "true" | "yes" | "on" => some true
  | "0" | "false" | "no" | "off" => some false
  | _ => none

structure Profile where
  url : Option String := none
  insecure : Option Bool := none
  credential : Option String := none
  histfile : Option String := none
  color : Option Bool := none
deriving DecidableEq, Repr

namespace Profile

def defaultPath : String := "~/.resht/profile"

/-- The path of the settings file, unless the environment names another. -/
def chosenPath (named : Option String) : String := named.getD defaultPath

def defaultName : String := "default"

/-- Why a file has no readable sections. -/
inductive Cause where
  | unreadable (e : FileError)
  | malformed (e : Ini.ParseError)
deriving DecidableEq, Repr

def Cause.message : Cause → String
  | .unreadable e => e.message
  | .malformed e => e.message

inductive Fault where
  | file (path : String) (cause : Cause)
  | text (cause : Ini.ParseError)
  | badFlag (key profile value : String)
  | badCredential (profile : String)
deriving DecidableEq, Repr

def Fault.message : Fault → String
  | .file path _ => "failed to read profile file " ++ path
  | .text _ => "failed to parse profile"
  | .badFlag key profile value =>
    "invalid boolean for '" ++ key ++ "' in profile [" ++ profile ++ "]: " ++ value
  | .badCredential profile =>
    "basic_auth in profile [" ++ profile ++ "] must be in the form 'user:pass'"

/-- What lies behind a fault, if it has a cause of its own. -/
def Fault.cause? : Fault → Option String
  | .file _ cause => some cause.message
  | .text cause => some cause.message
  | _ => none

def flag? (name : String) (entries : Assoc String) (key : String) : Except Fault (Option Bool) :=
  match entries.get? key with
  | none => .ok none
  | some text =>
    match readFlag? text with
    | some b => .ok (some b)
    | none => .error (.badFlag key name text)

/-- The profile of a section. -/
def ofSections (ini : Ini) (name : String) : Except Fault Profile :=
  match ini.section? name with
  | none => .ok {}
  | some entries => do
    let text (key : String) := (Assoc.get? key entries).map Text.trim
    let credential := text "basic_auth"
    if credential.any fun c => !Text.has ':' c then throw (.badCredential name)
    return { url := text "url", insecure := ← flag? name entries "insecure", credential,
             histfile := text "histfile", color := ← flag? name entries "color" }

/-- The profile of a name in the text of a settings file. -/
def read (content name : String) : Except Fault Profile :=
  match Ini.read content with
  | .ok ini => ofSections ini name
  | .error e => .error (.text e)

/-- The text of a file's bytes, without a byte order mark. -/
def fileText? (bs : Bytes) : Option String :=
  Text.ofBytes? <| match bs with
    | 0xEF :: 0xBB :: 0xBF :: r => r
    | bs => bs

/-- The profile of a name in what was read of the settings file at a path. -/
def ofFile (path name : String) (content : Except FileError Bytes) : Except Fault Profile :=
  let ini : Except Cause Ini := do
    let bs ← content.mapError .unreadable
    match fileText? bs with
    | none => throw (.unreadable .notUnicode)
    | some text => (Ini.read text).mapError .malformed
  match ini with
  | .ok ini => ofSections ini name
  | .error cause => .error (.file path cause)

/-- The profile of a name in a settings file; a file that is not there sets nothing. -/
def load (files : Files) (home path name : String) : Except Fault Profile :=
  let path := expandHome home path
  if files.has path then ofFile path name (files.read path) else .ok {}

end Profile
end RestShell
