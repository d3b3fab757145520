import RestShell.Session.Request

/-! One line of a session: its words are a request, a command or a call for help. -/

namespace RestShell

namespace Session

def withStatus (s : Session) (status : Nat) : Session := { s with status }

/-- Without a verb there is nothing to do; outside a shell that shows the help and counts
as a failure. -/
def runNothing (s : Session) : Outcome :=
  if s.options.shell then { session := s } else .shows (s.withStatus 1) (.message usage)

/-- Runs parsed arguments. -/
def runArguments (w : World) (s : Session) (a : Arguments) (summarize : Bool) : Outcome :=
  if a.help then .shows s (.message usage)
  else match a.verb with
    | none | some "" => s.runNothing
    | some verb =>
      if isHttpVerb verb then s.send w verb a summarize
      else
        let o := s.command w verb a.operands
        match o.result with
        | .ok _ => { o with session := o.session.withStatus 0 }
        | .error _ => o

/-- Runs the words of one command. `summarize` adds a line below a response. -/
def run (w : World) (s : Session) (words : List String) (summarize : Bool) : Outcome :=
  match s.arguments words with
  | .ok a => s.runArguments w a summarize
  | .error e => .fails s (.line e)

/-- A session, what was shown on the way to it, and how it goes on. -/
structure Step where
  session : Session
  notices : List Notice
  flow : Flow

/-- An outcome whose failure is shown; it leaves the status at 1. -/
def report (o : Outcome) : Step :=
  match o.result with
  | .ok flow => ⟨o.session, o.notices, flow⟩
  | .error e => ⟨o.session.withStatus 1, o.notices ++ [.error e.message], .next⟩

def runWords (w : World) (s : Session) (words : List String) (summarize : Bool) : Step :=
  report (s.run w words summarize)

/-- Runs a line of input. -/
def runLine (w : World) (s : Session) (line : String) : Step :=
  match splitWords line with
  | .ok words => s.runWords w words true
  | .error fault => report (.fails s (.syntaxFault fault))

end Session
end RestShell
