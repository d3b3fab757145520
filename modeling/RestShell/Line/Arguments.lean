import RestShell.Line.Parameter
import RestShell.Address.Path
import RestShell.Message.Payload
import RestShell.Text.Case

/-! The arguments of a command. Words are read from left to right; flags may stand
anywhere; the first bare word is the verb. For an HTTP verb the next bare word is
the path and the others are parameters; for any other verb all bare words are kept
as they stand. -/

namespace RestShell

open Json

/-- Verbs that are sent to the server. -/
def httpVerbs : List String := ["head", "get", "post", "put", "patch", "delete", "options"]

def isHttpVerb (verb : String) : Bool := httpVerbs.contains verb

def canonicalVerb : String → String
  | "del" => "delete"
  | "opts" | "opt" => "options"
  | "?" => "help"
  | verb => verb

/-- A part of the response to keep under a name. -/
structure Capture where
  key : String
  path : String
deriving DecidableEq, Repr

structure Arguments where
  verb : Option String := none
  path : Option String := none
  params : Assoc Value := []
  operands : List String := []
  credential : Option String := none
  headers : Assoc String := []
  query : List String := []
  captures : List Capture := []
  extract : List String := []
  exclude : List String := []
  redirect : Option Redirect := none
  url : Option String := none
  color : Bool := false
  formatted : Bool := true
  invert : Bool := false
  insecure : Bool := false
  shell : Bool := false
  verbose : Bool := false
  help : Bool := false
deriving DecidableEq

namespace Arguments

def isHttp (a : Arguments) : Bool := a.verb.any isHttpVerb

def header? (a : Arguments) (name : String) : Option String :=
  (a.headers.find? fun h => Text.sameName h.1 name).map Prod.snd

/-- Headers keep their names in lower case; a later one of the same name moves to the end. -/
def setHeader (a : Arguments) (name value : String) : Arguments :=
  let name := Text.lower name
  { a with headers := (a.headers.filter fun h => h.1 != name) ++ [(name, value)] }

def turn (a : Arguments) : Switch → Arguments
  | .invert => { a with invert := true }
  | .insecure => { a with insecure := true }
  | .color => { a with color := true }
  | .noColor => { a with color := false }
  | .verbose => { a with verbose := true }
  | .form => a.setHeader "content-type" formContentType
  | .help => { a with help := true }
  | .shell => { a with shell := true }
  | .raw => { a with formatted := false }

/-- Name and value on either side of the first `: `. -/
def cutHeader : List Char → Option (List Char × List Char)
  | [] => none
  | ':' :: ' ' :: r => some ([], r)
  | c :: r => (cutHeader r).map fun p => (c :: p.1, p.2)

def isPair (value : String) : Bool := Text.has '=' value && !Text.has '&' value

/-- The arguments with a flag's value. -/
def take (a : Arguments) (flag : ValueFlag) (value : String) : Except SyntaxFault Arguments :=
  match flag with
  | .redirect mode => .ok { a with redirect := some ⟨value, mode⟩ }
  | .basic =>
    if Text.has ':' value then .ok { a with credential := some value } else .error .badCredential
  | .file => if isPair value then .error .noUploads else .error .badUpload
  | .query => if isPair value then .ok { a with query := a.query ++ [value] } else .error .badQuery
  | .header =>
    match cutHeader value.toList with
    | some (name, text) => .ok (a.setHeader (.ofList name) (.ofList text))
    | none => .error .badHeader
  | .json =>
    match Json.read value with
    | .error fault => .error (.badJson fault)
    | .ok (.object fields) => .ok { a with params := a.params.merge fields }
    | .ok _ => .error .notMapping
  | .url => .ok { a with url := some value }
  | .capture =>
    match Text.cut '=' value with
    | some (key, path) => .ok { a with captures := a.captures ++ [⟨key, path⟩] }
    | none => .error .badCapture
  | .extract => .ok { a with extract := a.extract ++ [value] }
  | .exclude => .ok { a with exclude := a.exclude ++ [value] }

/-- The arguments with one more bare word. -/
def bare (a : Arguments) (data : Assoc Value) (word : String) : Except LineError Arguments :=
  match a.verb with
  | none => .ok { a with verb := some (canonicalVerb (Text.lower word)) }
  | some verb =>
    if isHttpVerb verb then
      match a.path with
      | none => .ok { a with path := some (Path.normalize false false word) }
      | some _ => (Parameter.add data word a.params).map fun params => { a with params }
    else .ok { a with operands := a.operands ++ [word] }

/-- Reads unbundled words into the arguments. -/
def scan (data : Assoc Value) : Arguments → List String → Except LineError Arguments
  | a, [] => .ok a
  | a, word :: rest =>
    match Item.ofWord word with
    | .blank => scan data a rest
    | .redirect r => scan data { a with redirect := some r } rest
    | .switch s => scan data (a.turn s) rest
    | .valued flag =>
      match rest with
      | [] => .error (.grammar (.missingValue flag))
      | value :: rest =>
        match a.take flag value with
        | .ok a => scan data a rest
        | .error fault => .error (.grammar fault)
    | .bare =>
      match a.bare data word with
      | .ok a => scan data a rest
      | .error e => .error e

/-- Reads the words of a command, with the session's colour and layout as defaults. -/
def read (data : Assoc Value) (color formatted : Bool) (words : List String) :
    Except LineError Arguments :=
  scan data { color, formatted } (words.flatMap unbundle)

end Arguments
end RestShell
