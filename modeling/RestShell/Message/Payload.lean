import RestShell.Address.Query
import RestShell.Text.Blank
import RestShell.Text.Case

/-! Request bodies. Bytes are sent as they are; a value is encoded as its content type
asks: JSON text, a form, or for any other type the value's own text. -/

namespace RestShell

open Json

def jsonContentType : String := "application/json"

def formContentType : String := "application/x-www-form-urlencoded"

/-- True of JSON with any parameters, and of anything else that begins so. -/
def isJsonType (contentType : String) : Bool :=
  Text.hasLead jsonContentType (Text.asciiLower (Text.trim contentType))

inductive Payload where
  | value (v : Value)
  | raw (bs : Bytes)
deriving DecidableEq

namespace Payload

inductive Encoding where
  | json
  | form
  | other (contentType : String)
deriving DecidableEq, Repr

def Encoding.ofType (contentType : Option String) : Encoding :=
  let name := Text.trim (contentType.getD "")
  if isJsonType name then .json
  else if Text.asciiLower name = formContentType then .form
  else .other name

/-- A string as it is, anything else as JSON. -/
def ownText : Value → String
  | .string s => s
  | v => v.text

/-- The bytes to send, if there is a body at all. -/
def encode (e : Encoding) (p : Payload) : Option Bytes :=
  match p, e with
  | .raw bs, _ => some bs
  | .value v, .json => some (Text.bytes v.text)
  | .value .null, _ => none
  | .value (.object fields), .form => some (Text.bytes (Query.build "" fields))
  | .value v, _ => some (Text.bytes (ownText v))

end Payload
end RestShell
