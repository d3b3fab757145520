import RestShell.Session.Input
import RestShell.Session.Line

/-! The loop of a session. Each turn prompts, reads and runs what was read. It ends at the
end of the input, at a line that quits, and at the second failure to read: after the
first one reading goes on. -/

namespace RestShell

namespace Session

/-- What the history gets of a line: the line, unless it is blank. -/
def historyEntry? (line : String) : Option String :=
  if Text.isBlank line then none else some (line ++ "\n")

/-- The session with the line in its history; a history that cannot be written is left. -/
def remember (s : Session) (line : String) : Session :=
  match historyEntry? line with
  | none => s
  | some entry =>
    match s.files.write true s.options.histfile (Text.bytes entry) with
    | .ok files => { s with files }
    | .error _ => s

def isLineEnd (c : Char) : Bool := c == '\r' || c == '\n'

/-- A line without its ending. -/
def lineText (text : String) : String :=
  .ofList (text.toList.reverse.dropWhile isLineEnd).reverse

def failureNotice (fault : InputFault) : Notice := .error ("Input error: " ++ fault.message)

/-- What a turn of the loop leads to. -/
structure Turn where
  session : Session
  notices : List Notice
  /-- One failure to read has been passed over. -/
  restarted : Bool
  ended : Bool

/-- One turn, behind its prompt; nothing read is the end of the input. -/
def turn (w : World) (s : Session) (restarted : Bool) : Option Reading → Turn
  | none => ⟨s, [.message ""], restarted, true⟩
  | some (.line text) =>
    let line := lineText text
    let step := (s.remember line).runLine w line
    ⟨step.session, step.notices, restarted, step.flow = .quit⟩
  | some (.failure fault) =>
    if restarted then ⟨s.withStatus 1, [failureNotice fault], true, true⟩
    else ⟨s, [failureNotice fault], true, false⟩

/-- Turns until one is the last: the session then, and all that was shown. -/
def readOn (w : World) (s : Session) (restarted : Bool) : List Reading → Session × List Notice
  | [] => (s, .prompt s.prompt :: (s.turn w restarted none).notices)
  | r :: rest =>
    let t := s.turn w restarted (some r)
    let shown := .prompt s.prompt :: t.notices
    if t.ended then (t.session, shown)
    else
      let (last, more) := t.session.readOn w t.restarted rest
      (last, shown ++ more)

/-- The loop after initial words, if there are any; they too may quit. -/
def start (w : World) (s : Session) (words : Option (List String)) (input : List Reading) :
    Session × List Notice :=
  match words with
  | none => s.readOn w false input
  | some words =>
    let first := s.runWords w words true
    match first.flow with
    | .quit => (first.session, first.notices)
    | .next =>
      let (last, more) := first.session.readOn w false input
      (last, first.notices ++ more)

/-- A shell runs the words and then the input; without one the words are all there is. -/
def launch (w : World) (s : Session) (words : List String) (input : List Reading) :
    Session × List Notice :=
  if s.options.shell then s.start w (some words) input
  else
    let step := s.runWords w words s.options.verbose
    (step.session, step.notices)

end Session
end RestShell
