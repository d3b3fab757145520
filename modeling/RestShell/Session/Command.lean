import RestShell.Json.Writer
import RestShell.Session.Inspect
import RestShell.Session.Usage

/-! The commands of the shell itself. A command with several operands works through them in
order; what it did and showed before an operand that fails stays done and shown. -/

namespace RestShell

open Json

namespace Outcome

/-- The outcome with notices that were shown before its own. -/
def preceded (notices : List Notice) (o : Outcome) : Outcome :=
  { o with notices := notices ++ o.notices }

def shows (s : Session) (notice : Notice) : Outcome := ⟨s, [notice], .ok .next⟩

def fails (s : Session) (e : ShellError) : Outcome := ⟨s, [], .error e⟩

/-- One step for each operand until one fails. -/
def each (step : Session → String → Except ShellError (Session × List Notice)) :
    Session → List String → Outcome
  | s, [] => { session := s }
  | s, operand :: rest =>
    match step s operand with
    | .ok (s, notices) => (each step s rest).preceded notices
    | .error e => fails s e

end Outcome

/-- The switches among a session's options. -/
inductive OptionSwitch where
  | color | formatted | verbose | invert
deriving DecidableEq, Repr

def OptionSwitch.ofName? : String → Option OptionSwitch
  | "color" => some .color
  | "formatted" => some .formatted
  | "verbose" => some .verbose
  | "invert_color" | "invert" => some .invert
  | _ => none

def Options.turn (o : Options) (on : Bool) : OptionSwitch → Options
  | .color => { o with color := on }
  | .formatted => { o with formatted := on }
  | .verbose => { o with verbose := on }
  | .invert => { o with invert := on }

/-- A value that says yes or no: a boolean or its spelling. -/
def flagOf? : Value → Option Bool
  | .bool b => some b
  | .string text => readFlag? text
  | _ => none

/-- The text of a value where a text is asked for. -/
def plainText : Value → String
  | .string s => s
  | v => v.text

namespace Session

/-- The session with another base URL, in the client and in the options. -/
def setUrl (s : Session) (url : String) : Except ShellError Session :=
  match s.client.setBase url with
  | .ok client => .ok { s with client, options := { s.options with url } }
  | .error e => .error (.client e)

/-- The session with an option set to a value. -/
def setOption (s : Session) (name : String) (v : Value) : Except ShellError Session :=
  match OptionSwitch.ofName? name with
  | some switch =>
    match flagOf? v with
    | some on => .ok { s with options := s.options.turn on switch }
    | none => .error (.syntaxFault (.badSwitch name))
  | none =>
    if name = "url" then s.setUrl (plainText v) else .error (.syntaxFault (.unknownOption name))

/-- Sets what a parameter says. -/
def setting (s : Session) (operand : String) : Except ShellError (Session × List Notice) := do
  let pairs ← (Parameter.add s.data operand []).mapError .line
  return (← pairs.foldlM (fun s (e : String × Value) => s.setOption e.1 e.2) s, [])

def set (s : Session) (operands : List String) : Outcome :=
  if operands = [] then .fails s (.syntaxFault .emptySet) else .each setting s operands

/-- A line that tells of a stored value: its name, what happened to it and the value. -/
def told (name mark : String) (v : Value) : Notice := .message (name ++ mark ++ v.text)

/-- Lists, removes or adds one variable. -/
def envEntry (s : Session) (operand : String) : Except ShellError (Session × List Notice) :=
  match Text.dropLead? "-=" operand, Text.dropLead? "+=" operand with
  | some name, _ => .ok <|
    match s.vars.get? name with
    | some v => ({ s with vars := s.vars.erase name }, [told name " -= " v])
    | none => (s, [])
  | none, some name =>
    match s.data.get? name with
    | some v => .ok ({ s with vars := s.vars.put name v }, [told name " += " v])
    | none => .error (.line (.unknownVariable name))
  | none, none => .ok (s, (s.vars.get? operand).toList.map (told operand " = "))

def env (s : Session) (operands : List String) : Outcome :=
  (Outcome.each envEntry s (if operands = [] then s.vars.keys else operands)).preceded
    [.message "ENV:"]

/-- Lists or removes one captured value. -/
def dataEntry (s : Session) (operand : String) : Except ShellError (Session × List Notice) :=
  match Text.dropLead? "-=" operand with
  | some name => .ok <|
    match s.data.get? name with
    | some v => ({ s with data := s.data.erase name }, [told name " -= " v])
    | none => (s, [])
  | none => .ok (s, (s.data.get? operand).toList.map (told operand " = "))

def captured (s : Session) (operands : List String) : Outcome :=
  (Outcome.each dataEntry s (if operands = [] then s.data.keys else operands)).preceded
    [.message "DATA:"]

def changePlace (s : Session) (operands : List String) : Outcome :=
  match s.place.enter (operands.headD "") with
  | .ok place => { session := { s with place } }
  | .error e => .fails s (.path e)

/-- Runs a program. That it ended badly is reported and is no failure of the command. -/
def runProgram (w : World) (s : Session) (operands : List String) : Outcome :=
  match operands with
  | [] => .fails s (.syntaxFault .noProgram)
  | program :: _ =>
    match w.programs s.files operands with
    | .error e => .fails s (.file e)
    | .ok r =>
      let ending := if r.exit = .status 0 then [] else
        [Notice.error (program ++ " exited with " ++ r.exit.text)]
      ⟨{ s with files := r.files }, .program r.out r.err :: ending, .ok .next⟩

/-- Runs a command of the shell. -/
def command (w : World) (s : Session) (verb : String) (operands : List String) : Outcome :=
  match verb with
  | "set" => s.set operands
  | "env" => s.env operands
  | "data" => s.captured operands
  | "cd" => s.changePlace operands
  | "config" => .shows s (.message (render {} s.options.listing))
  | "quit" => { session := s, result := .ok .quit }
  | "help" => .shows s (.message usage)
  | "sh" => s.runProgram w operands
  | "debug" => .shows s (.diagnostic s.dump)
  | _ => .fails s (.unrecognized verb)

end Session
end RestShell
