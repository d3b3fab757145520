import RestShell.Charset.Label
import RestShell.Compression.Coding
import RestShell.Json.Reader
import RestShell.Message.Header
import RestShell.Message.Payload

/-! What the body of a reply says. It is decompressed as its content coding asks,
decoded in the charset that its content type names, and read as JSON when the content
type says so. -/

namespace RestShell

open Json

inductive Content where
  | json (v : Value)
  | text (s : String)
  | raw (bs : Bytes)
deriving DecidableEq

namespace Content

def json? : Content → Option Value
  | .json v => some v
  | _ => none

/-- The content as a JSON value; text and bytes become strings. -/
def value : Content → Value
  | .json v => v
  | .text s => .string s
  | .raw bs => .string (Text.ofBytesLossy bs)

/-- Why a body could not be decoded. -/
inductive Fault where
  | coding (name : String) (fault : Coding.Fault)
  | notJson (body : Bytes)
deriving DecidableEq

/-- The longest beginning of a body that a message quotes, in bytes. -/
def quoteLimit : Nat := 256

def Fault.detail : Fault → String
  | .coding name fault => name ++ " body could not be decompressed: " ++ fault.message
  | .notJson body =>
    Text.ofBytesLossy (body.take quoteLimit) ++ if quoteLimit < body.length then "..." else ""

/-- The label of the first parameter of a content type, whatever its key. -/
def charsetLabel? (contentType : String) : Option String := do
  let (_, rest) ← Text.cut ';' contentType
  let (parameter, _) := Text.cutD ';' rest
  let (_, value) ← Text.cut '=' (Text.trim parameter)
  return Text.unquote (Text.trim value)

/-- The body without its content coding; an unknown coding is left as it is. -/
def decompress (coding : Option String) (body : Bytes) : Except Fault Bytes :=
  match coding with
  | none => .ok body
  | some name =>
    match Coding.ofName? name with
    | none => .ok body
    | some c => (c.decode body).mapError (.coding name)

/-- The text of a body in the charset of its content type, if that names one. -/
def text? (contentType : String) (body : Bytes) : Option String :=
  if body = [] then none
  else ((charsetLabel? contentType).bind Charset.ofLabel?).map fun c => .ofList (c.decode body)

/-- Decodes a body that is not compressed. -/
def ofBytes (contentType : String) (body : Bytes) : Except Fault Content :=
  let text := text? contentType body
  if isJsonType contentType then
    if body = [] then .ok (.json .null)
    else
      let parsed := match text with
        | some s => (Json.read s).toOption
        | none => Json.readBytes? body
      match parsed with
      | some v => .ok (.json v)
      | none => .error (.notJson body)
  else .ok <| match text with
    | some s => .text s
    | none => .raw body

/-- Decodes the body of a reply with the given headers. -/
def decode (h : ReplyHeaders) (body : Bytes) : Except Fault Content := do
  let bytes ← decompress ((h.values "content-encoding").head?) body
  ofBytes (((h.values "content-type").head?).getD "") bytes

end Content
end RestShell
