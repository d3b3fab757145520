import RestShell.Assoc
import RestShell.Text.Blank
import RestShell.Text.Case
import RestShell.Text.Split

/-! Cookies. A server's cookie header is a list of pairs and attributes; the pairs are
kept, one value per name, and go out with every request in one header. -/

namespace RestShell

namespace Cookie

/-- Names that are attributes of a cookie, never cookies. -/
def attributes : List String :=
  ["path", "domain", "expires", "max-age", "secure", "httponly", "samesite", "version",
    "comment", "priority", "partitioned"]

/-- The cookie of one part of a header. A part without `=`, without a name or with an
attribute's name is none. -/
def ofPart? (part : String) : Option (String × String) :=
  match Text.cut '=' part with
  | none => none
  | some (name, value) =>
    let name := Text.trim name
    if name = "" ∨ Text.asciiLower name ∈ attributes then none
    else some (name, Text.unquote (Text.trim value))

/-- The cookies of a header that sets them. -/
def read (header : String) : List (String × String) :=
  (Text.split ';' header).filterMap ofPart?

end Cookie

/-- The cookies held, one value per name in the order of first appearance. -/
abbrev Cookies := Assoc String

namespace Cookies

/-- Takes up every cookie of a header. -/
def absorb (c : Cookies) (header : String) : Cookies := Assoc.merge c (Cookie.read header)

/-- The header that sends the cookies back; none when there are none. -/
def header? (c : Cookies) : Option String :=
  if c = [] then none else some (Text.join '&' (c.map fun e => e.1 ++ "=" ++ e.2))

end Cookies
end RestShell
