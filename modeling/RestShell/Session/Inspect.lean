import RestShell.Session.Basic
import RestShell.Text.Quoted

/-! The dump of a session: every field of its parts by name, nested parts indented. -/

namespace RestShell

open Json

/-- A text laid out in lines: an atom as it stands, or entries between two brackets, each
entry with a label on a line of its own. -/
inductive Shape where
  | atom (text : String)
  | group (opening : String) (entries : List (String × Shape)) (closing : String)

namespace Shape

mutual
/-- The text of a shape whose first line starts at the given margin. -/
def text (margin : String) : Shape → String
  | .atom t => t
  | .group opening [] closing => opening ++ closing
  | .group opening (e :: r) closing =>
    opening ++ "\n" ++ entriesText (margin ++ "    ") (e :: r) ++ margin ++ closing
def entriesText (margin : String) : List (String × Shape) → String
  | [] => ""
  | (label, s) :: r => margin ++ label ++ text margin s ++ ",\n" ++ entriesText margin r
end

def quoted (s : String) : Shape := .atom (Text.quoted s)

def flag (b : Bool) : Shape := .atom (toString b)

/-- The path of a file: in it a single quote is escaped as well. -/
def path (s : String) : Shape := .atom <|
  let escape (c : Char) := if c = '\'' then ['\\', c] else Chars.escapeVisible c
  .ofList ('"' :: s.toList.flatMap escape ++ ['"'])

/-- A part with named fields. -/
def record (name : String) (fields : List (String × Shape)) : Shape :=
  .group (name ++ " \x7b") (fields.map fun f => (f.1 ++ ": ", f.2)) "\x7d"

def list (opening : String) (items : List Shape) (closing : String) : Shape :=
  .group opening (items.map ("", ·)) closing

def optional : Option String → Shape
  | none => .atom "None"
  | some s => .list "Some(" [.quoted s] ")"

mutual
def ofValue : Value → Shape
  | .null => .atom "Null"
  | .bool b => .atom ("Bool(" ++ toString b ++ ")")
  | .number n => .atom ("Number(" ++ (Value.number n).text ++ ")")
  | .string s => .atom ("String(" ++ Text.quoted s ++ ")")
  | .array items => .group "Array [" (ofItems items) "]"
  | .object fields => .group "Object \x7b" (ofFields fields) "\x7d"
def ofItems : List Value → List (String × Shape)
  | [] => []
  | v :: r => ("", ofValue v) :: ofItems r
def ofFields : List (String × Value) → List (String × Shape)
  | [] => []
  | (k, v) :: r => (Text.quoted k ++ ": ", ofValue v) :: ofFields r
end

def ofStore (m : Assoc Value) : Shape := .group "\x7b" (ofFields m) "\x7d"

end Shape

namespace Session
open Shape

def optionsShape (o : Options) : Shape :=
  .record "SessionOptions" [
    ("url", quoted o.url), ("insecure", flag o.insecure), ("color", flag o.color),
    ("formatted", flag o.formatted), ("verbose", flag o.verbose), ("invert_color", flag o.invert),
    ("shell", flag o.shell), ("basic_auth", optional o.credential), ("histfile", path o.histfile)]

/-- The client; its credential is not told. -/
def clientShape (c : Client) : Shape :=
  let cookies := c.cookies.map fun e => list "(" [quoted e.1, quoted e.2] ")"
  .record "HttpClient" [("base_url", quoted c.base.text),
    ("cookies", .record "CookieJar" [("cookies", list "[" cookies "]")]),
    ("basic_auth", optional (c.credential.map fun _ => "<set>")), ("insecure", flag c.insecure)]

def envShape (s : Session) : Shape :=
  .record "ShellEnv" [
    ("paths", .record "PathResolver" [
      ("cwd", quoted s.place.current), ("last_cwd", quoted s.place.previous)]),
    ("vars", ofStore s.vars), ("histfile", path s.options.histfile)]

def dataShape (s : Session) : Shape := .record "DataStore" [("values", ofStore s.data)]

/-- All that a session holds. -/
def dump (s : Session) : String :=
  "options: " ++ (optionsShape s.options).text "" ++
    "\nclient: " ++ (clientShape s.client).text "" ++
    "\nenv: " ++ s.envShape.text "" ++ "\ndata: " ++ s.dataShape.text "" ++
    "\nlast status: " ++ toString s.status

end Session
end RestShell
