import RestShell.Address.Path
import RestShell.Client.Response
import RestShell.Message.Cookie
import RestShell.Text.Base64

/-! The client of one session: a base URL that every path is resolved under, the cookies
that replies have set, and a credential to use by default. What the network answers is
a function of all requests sent so far. -/

namespace RestShell

/-- The answer to a request, given those sent before it, or why there is none. -/
abbrev Transport := List Request → Request → Except String Reply

/-- A transport that answers from a list and then with an empty mapping. -/
def Transport.ofScript (answers : List (Except String Reply)) : Transport := fun before _ =>
  answers.getD before.length
    (.ok ⟨200, [("content-type", [jsonContentType])], Text.bytes (Json.Value.object []).text, ⟨0⟩⟩)

structure Client where
  base : Url
  cookies : Cookies := []
  credential : Option String := none
  insecure : Bool := false
  /-- Requests sent, oldest first. -/
  sent : List Request := []
deriving DecidableEq

/-- What a caller may add to a request. -/
structure RequestOptions where
  body : Option Payload := none
  query : Option Query := none
  headers : Headers := []
  credential : Option String := none
  verbose : Bool := false

namespace Client

/-- The URL of a path under the base URL, with the base's own query, the path's and the
given one, in this order. -/
def buildUrl (c : Client) (path : String) (query : Option String) : String :=
  let (path, own) := Text.cutD '?' path
  let port := if c.base.hasDefaultPort then "" else ":" ++ toString c.base.port
  let url := c.base.scheme ++ "://" ++ c.base.hostname ++ port ++
    Path.normalize true false ("/" ++ c.base.path ++ "/" ++ path)
  [c.base.query, own, query.getD ""].foldl
    (fun url q => if q = "" then url else Query.addTo url q) url

def effectiveMethod (method : String) : String := if method = "" then "GET" else Text.upper method

/-- Requests of these methods carry no body. -/
def isBodiless (method : String) : Bool := method == "GET" || method == "HEAD"

/-- The query of a request; without a body, a mapping goes into the query. -/
def requestQuery (bodiless : Bool) (o : RequestOptions) : Option String :=
  let query := o.query.map Query.render
  match bodiless, o.body with
  | true, some (.value (.object (e :: fields))) =>
    let encoded := Query.build "" (e :: fields)
    some (match query with
      | some q => Query.merge q encoded
      | none => encoded)
  | _, _ => query

/-- The headers of a request: JSON both ways, the cookies and the credential, and over
them what the caller sets. -/
def requestHeaders (c : Client) (o : RequestOptions) : Headers :=
  let cookie := c.cookies.header?.toList.map (("Cookie", ·))
  let credential := (o.credential <|> c.credential).toList.map fun s =>
    ("Authorization", "Basic " ++ Base64.encode s)
  Headers.putAll [] (("Content-Type", jsonContentType) :: ("Accept", jsonContentType) :: cookie ++
    credential ++ o.headers)

/-- The request that is sent. -/
def compose (c : Client) (method path : String) (o : RequestOptions) : Request :=
  let method := effectiveMethod method
  let bodiless := isBodiless method
  let headers := c.requestHeaders o
  let body := if bodiless then none else
    o.body.bind fun p => p.encode (.ofType (headers.get? "content-type"))
  ⟨method, c.buildUrl (if path = "" then "/" else path) (requestQuery bodiless o), headers, body⟩

/-- The lines that a verbose request logs before it is sent. -/
def requestLog (r : Request) : List String :=
  ("Request: " ++ r.method ++ " " ++ r.url) ::
    r.headers.map (fun h => "Request header: " ++ h.1 ++ ": " ++ h.2) ++
    r.body.toList.map fun bs => "Request body: " ++ Text.ofBytesLossy bs

def commaJoin : List String → String
  | [] => ""
  | [s] => s
  | s :: t :: r => s ++ ", " ++ commaJoin (t :: r)

/-- The lines that a verbose request logs when it was answered. -/
def replyLog (c : Client) (r : Reply) : List String :=
  ("Response status: " ++ toString r.status) ::
    r.headers.map (fun h => "Response header: " ++ h.1 ++ ": " ++ commaJoin h.2) ++
    c.cookies.map fun e => "Cookie: " ++ e.1 ++ "=" ++ e.2

/-- What an answered request comes to. -/
def conclude (method path : String) (r : Reply) : Except ClientError Response :=
  match Content.decode r.headers r.body with
  | .error fault => .error (.decode fault)
  | .ok content =>
    let response := Response.ofReply r content
    match FailureKind.ofStatus? r.status with
    | none => .ok response
    | some kind =>
      let message := "\"" ++ method ++ " " ++ path ++ "\" failed (" ++ toString r.status ++ ")"
      .error (.http ⟨kind, message, response⟩)

/-- The outcome of a request, the client after it and what was logged. -/
structure Exchange where
  outcome : Except ClientError Response
  client : Client
  log : List String

/-- Sends a request. An answer feeds the cookies whatever becomes of it. -/
def request (t : Transport) (c : Client) (method path : String) (o : RequestOptions) : Exchange :=
  let r := c.compose method path o
  let before := if o.verbose then requestLog r else []
  let sent := { c with sent := c.sent ++ [r] }
  match t c.sent r with
  | .error reason => ⟨.error (.transport reason), sent, before⟩
  | .ok reply =>
    let cookies := (reply.headers.values "set-cookie").foldl Cookies.absorb c.cookies
    let client := { sent with cookies }
    ⟨conclude r.method (if path = "" then "/" else path) reply, client,
      before ++ if o.verbose then client.replyLog reply else []⟩

/-- The client with the base URL of a text; a failure leaves it as it is. -/
def setBase (c : Client) (url : String) : Except ClientError Client :=
  match Url.read url with
  | .ok base => .ok { c with base }
  | .error e => .error (.invalidUrl e)

/-- The client with another credential to use by default, or with none. -/
def setCredential (c : Client) (credential : Option String) : Client := { c with credential }

end Client
end RestShell
