import RestShell.Client.Response
import RestShell.Display.Render

/-! What the shell shows. Values and listings go to the output; errors, details and the
line below a response go to the error stream, so that a pipeline sees the payload only. -/

namespace RestShell

open Json

/-- Text for the two streams. -/
structure Shown where
  out : String := ""
  err : String := ""
deriving DecidableEq, Repr

inductive Notice where
  /-- A response or a projection of it. -/
  | value (v : Value) (style : Style)
  /-- A failed request with the payload that came back. -/
  | failure (status : String) (v : Value) (style : Style)
  /-- Status, duration and size of a response. -/
  | summary (s : Response.Summary) (color : Bool)
  | message (text : String)
  | error (text : String)
  | diagnostic (text : String)
  | prompt (text : String)
  /-- What a program wrote. -/
  | program (out err : String)
deriving DecidableEq

namespace Notice

/-- The greatest number of characters of a string that is shown formatted. -/
def previewLimit : Nat := 256

def preview (s : String) : String := .ofList (s.toList.take previewLimit)

/-- How many characters are shown of how many. -/
def counts (s : String) : String :=
  let n := s.toList.length
  toString (min n previewLimit) ++ "/" ++ toString n ++ " chars"

def line (text : String) : String := text ++ "\n"

def showValue (v : Value) (style : Style) : Shown :=
  match v with
  | .null => {}
  | .string s =>
    if style.formatted then
      let hint := if previewLimit < s.toList.length then ", use --raw|-r to see full output" else ""
      { out := line (preview s), err := line ("# " ++ counts s ++ hint) }
    else { out := line s }
  | v => { out := line (render style v) }

def showFailure (status : String) (v : Value) (style : Style) : Shown :=
  let (opening, closing) := if style.color then (Ansi.red, Ansi.reset) else ("", "")
  let head := opening ++ "! " ++ status
  match v with
  | .null => { err := line (head ++ closing) }
  | .string s =>
    if style.formatted then
      { err := line (head ++ " (" ++ counts s ++ ")" ++ closing ++ "\n:" ++ preview s) }
    else { err := line (head ++ ":" ++ closing ++ "\n" ++ s) }
  | v => { out := line (render style v), err := line (head ++ ":" ++ closing) }

def summaryLine (s : Response.Summary) (color : Bool) : String :=
  let status := " " ++ toString s.status ++ " "
  let amounts := " " ++ s.elapsed.text ++ " / " ++ s.size.text
  if color then
    let (badge, note) :=
      if s.success then (Ansi.goodBadge, Ansi.goodNote) else (Ansi.badBadge, Ansi.badNote)
    badge ++ status ++ note ++ amounts ++ Ansi.reset
  else status ++ amounts

/-- What a notice writes. -/
def shown : Notice → Shown
  | .value v style => showValue v style
  | .failure status v style => showFailure status v style
  | .summary s color => { err := line (summaryLine s color) }
  | .message text => { out := line text }
  | .error text => { err := line ("! " ++ text) }
  | .diagnostic text => { err := line text }
  | .prompt text => { out := text }
  | .program out err => { out, err }

/-- True of a notice that tells of an error. -/
def isError : Notice → Bool
  | .failure .. | .error _ => true
  | _ => false

end Notice

/-- Everything that some notices write. -/
def shownBy (notices : List Notice) : Shown :=
  let all := notices.map Notice.shown
  ⟨String.join (all.map Shown.out), String.join (all.map Shown.err)⟩

/-- The prompt: the base URL and the working path. -/
def promptText (base path : String) (color : Bool) : String :=
  let place := base ++ " - " ++ path
  if color then
    Ansi.magenta ++ "[" ++ Ansi.bold ++ Ansi.magenta ++ place ++ Ansi.reset ++
      Ansi.magenta ++ "] " ++ Ansi.bold ++ Ansi.brightWhite ++ "> " ++ Ansi.reset
  else "[" ++ place ++ "] > "

/-- What a redirection writes to its file: a string as it is, nothing for null. -/
def redirectText : Value → String
  | .string s => s
  | .null => ""
  | v => render {} v

end RestShell
