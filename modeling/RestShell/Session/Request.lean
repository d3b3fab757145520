import RestShell.Session.Command

/-! Requests of a session. The session's variables go out under the parameters of the line;
what comes back is projected, kept under the names of the captures, and shown or written
to a file. -/

namespace RestShell

open Json

namespace Session

/-- One value as it is, several as a list; nothing of none. -/
def gathered : List Value → Option Value
  | [] => none
  | [v] => some v
  | vs => some (.array vs)

/-- Keeps the values of a capture. A key that ends in `+` is also a variable. -/
def keep (s : Session) (key : String) (values : List Value) : Session :=
  match gathered values, Text.dropLast? '+' key with
  | none, _ => s
  | some v, some name => { s with vars := s.vars.put name v, data := s.data.put name v }
  | some v, none => { s with data := s.data.put key v }

/-- True of arguments that ask for a part of the response. -/
def wantsPart (a : Arguments) : Bool :=
  !a.extract.isEmpty || !a.exclude.isEmpty || !a.captures.isEmpty

/-- The part of a value that the arguments ask for, and the session with their captures. -/
def project (s : Session) (v : Value) (a : Arguments) : Except SyntaxFault (Value × Session) :=
  (Projection.of v a.extract a.exclude a.captures).map fun p =>
    (match p.found with
      | [v] => v
      | vs => .array vs,
     p.captured.foldl (fun s c => s.keep c.1 c.2) s)

/-- What is shown of a body; of an empty text nothing. -/
def bodyShown (c : Content) : Value :=
  match c.value with
  | .string "" => .null
  | v => v

/-- The parameters of a request: the variables, and over them those of the line. -/
def parameters (s : Session) (a : Arguments) : Assoc Value := s.vars.merge a.params

def requestOptions (s : Session) (a : Arguments) : RequestOptions :=
  { body := some (.value (.object (s.parameters a)))
    query := if a.query = [] then none else some (.pairs a.query)
    headers := a.headers
    credential := a.credential
    verbose := a.verbose || s.options.verbose }

/-- The response of an exchange, whether its status is an error or not. -/
def responseOf : Except ClientError Response → Option Response
  | .ok r => some r
  | .error (.http f) => some f.response
  | .error _ => none

/-- Writes a value where a redirection leads. -/
def redirectTo (s : Session) (r : Redirect) (v : Value) : Session × List Notice :=
  match s.files.write (r.mode = .continue) r.path (Text.bytes (redirectText v)) with
  | .ok files => ({ s with files }, [])
  | .error e => (s, [.error ("Failed to write response: " ++ e.message)])

/-- Shows a value or writes it to the file of a redirection. After a failure nothing is
written. -/
def deliver (s : Session) (a : Arguments) (failure : Option ClientError) (v : Value) :
    Session × List Notice :=
  match failure, a.redirect with
  | none, some r => s.redirectTo r v
  | none, none => (s, [.value v (s.style a)])
  | some e, _ => (s, [.failure e.message v (s.style a)])

/-- What becomes of an answered or unanswered request. A projection that cannot be made is
reported in place of everything else. -/
def conclude (s : Session) (a : Arguments) (summarize : Bool)
    (outcome : Except ClientError Response) : Session × List Notice :=
  let failure := match outcome with
    | .ok _ => none
    | .error e => some e
  let s := { s with status := if failure.isSome then 1 else 0 }
  let finish (s : Session) (v : Value) (response : Option Response) :=
    let (s', notices) := s.deliver a failure v
    let below := if summarize then
        response.toList.map fun r => Notice.summary r.summary (s.style a).color
      else []
    (s', notices ++ below)
  match responseOf outcome with
  | none => finish s .null none
  | some r =>
    let v := bodyShown r.content
    if wantsPart a && r.isJson then
      match s.project v a with
      | .ok (v, s) => finish s v (some r)
      | .error fault => (s, [.error fault.message])
    else finish s v (some r)

/-- The session with the base URL of the arguments, if they have one. -/
def withUrl (s : Session) (a : Arguments) : Except ShellError Session :=
  match a.url with
  | some url => s.setUrl url
  | none => .ok s

/-- Sends the request of the arguments, and shows what comes of it. -/
def send (w : World) (s : Session) (verb : String) (a : Arguments) (summarize : Bool) : Outcome :=
  match s.withUrl a with
  | .error e => .fails s e
  | .ok s =>
    match s.place.resolve (a.path.getD "") with
    | .error e => .fails s (.path e)
    | .ok path =>
      let x := s.client.request w.transport verb path (s.requestOptions a)
      let (s, notices) := conclude { s with client := x.client } a summarize x.outcome
      ⟨s, x.log.map .diagnostic ++ notices, .ok .next⟩

end Session
end RestShell
