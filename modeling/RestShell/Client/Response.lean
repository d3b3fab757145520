import RestShell.Address.Url
import RestShell.Message.Content
import RestShell.Message.Measure

/-! Requests, replies and responses. A reply is what came over the wire; a response is
a reply whose body is decoded, with what is shown about it. -/

namespace RestShell

structure Request where
  method : String
  url : String
  headers : Headers
  body : Option Bytes
deriving DecidableEq, Repr

structure Reply where
  status : Nat
  headers : ReplyHeaders
  body : Bytes
  elapsed : Elapsed := ⟨0⟩
deriving DecidableEq, Repr

structure Response where
  status : Nat
  headers : ReplyHeaders
  content : Content
  raw : Bytes
  elapsed : Elapsed
deriving DecidableEq

namespace Response

def ofReply (r : Reply) (content : Content) : Response :=
  ⟨r.status, r.headers, content, r.body, r.elapsed⟩

def header? (r : Response) (name : String) : Option String := r.headers.first? name

def contentType? (r : Response) : Option String := r.header? "content-type"

def isJson (r : Response) : Bool := r.contentType?.any isJsonType

/-- What the line below a response tells. -/
structure Summary where
  status : Nat
  success : Bool
  elapsed : Elapsed
  size : ByteSize
deriving DecidableEq, Repr

def summary (r : Response) : Summary :=
  ⟨r.status, 200 ≤ r.status && r.status < 400, r.elapsed, .ofBytes r.raw.length⟩

end Response

/-- The class of a status that is an error. -/
inductive FailureKind where
  /-- Below 200. -/
  | other
  /-- From 400 to 499. -/
  | user
  /-- From 500 on. -/
  | server
deriving DecidableEq, Repr

namespace FailureKind

/-- The class of a status, if it is an error. -/
def ofStatus? (status : Nat) : Option FailureKind :=
  if status < 200 then some .other
  else if status < 400 then none
  else if status < 500 then some .user
  else some .server

def name : FailureKind → String
  | .other => "HttpError"
  | .user => "UserHttpError"
  | .server => "ServerHttpError"

end FailureKind

/-- A response whose status is an error. -/
structure Failure where
  kind : FailureKind
  message : String
  response : Response
deriving DecidableEq

inductive ClientError where
  | invalidUrl (e : Url.Invalid)
  | http (f : Failure)
  | decode (fault : Content.Fault)
  | transport (reason : String)
deriving DecidableEq

def ClientError.message : ClientError → String
  | .invalidUrl e => e.message
  | .http f => f.message
  | .decode fault => "Failed to decode API response\n" ++ fault.detail
  | .transport reason => "Transport error: " ++ reason

end RestShell
