import RestShell.Text.Blank
import RestShell.Text.Split
import RestShell.Text.Integer
import RestShell.Text.WordChar

/-! Base URLs. As little as a host, a port or a path is accepted; what is missing
is `http`, `localhost` and the scheme's default port. The text behind the host is
kept as written, divided into path, parameters, query and fragment. -/

namespace RestShell

structure Url where
  scheme : String
  hostname : String
  port : Nat
  path : String
  params : String
  query : String
  fragment : String
deriving DecidableEq, Repr

namespace Url

inductive Fault where
  | empty
  | badPort (text : String)
  | badScheme
deriving DecidableEq, Repr

def Fault.reason : Fault → String
  | .empty => "empty URL"
  | .badPort text => "Invalid API service port: " ++ text ++ "."
  | .badScheme => "Only HTTP and HTTPS are supported protocols."

/-- A text that is no URL, trimmed, and why. -/
structure Invalid where
  input : String
  fault : Fault
deriving DecidableEq, Repr

def Invalid.message (e : Invalid) : String :=
  "Invalid API URL \"" ++ e.input ++ "\": " ++ e.fault.reason

def defaultPort? : String → Option Nat
  | "http" => some 80
  | "https" => some 443
  | _ => none

/-- The scheme before `://`, in lower case, and the rest; `http` without one. -/
def splitScheme (cs : List Char) : List Char × List Char :=
  let name := cs.takeWhile Chars.isWord
  match cs.dropWhile Chars.isWord with
  | ':' :: '/' :: '/' :: r =>
    if name = [] then (['h', 't', 't', 'p'], cs) else (Chars.lower name, r)
  | _ => (['h', 't', 't', 'p'], cs)

/-- Divides at the parameters of the last segment. -/
def splitParams (path : List Char) : List Char × List Char :=
  let last := (path.reverse.takeWhile (· != '/')).reverse
  match Chars.cut ';' last with
  | some (a, b) => (path.take (path.length - last.length) ++ a, b)
  | none => (path, [])

/-- The port that a text names: a decimal integer from 1 to 65535. -/
def readPort (text : List Char) : Except Fault Nat :=
  let isWord (n : Int) : Bool := -0x8000000000000000 ≤ n && n < 0x8000000000000000
  match (Chars.integer? (Chars.trim text)).filter isWord with
  | none => .error (.badPort (.ofList text))
  | some n => if 1 ≤ n ∧ n ≤ 65535 then .ok n.toNat else .error (.badPort (toString n))

/-- Reads a trimmed text. -/
def readChars (cs : List Char) : Except Fault Url := do
  if cs = [] then throw .empty
  let (scheme, rest) := splitScheme cs
  let (host, tail) := (Chars.cut '/' rest).getD (rest, [])
  let (name, port) := match Chars.cut ':' host with
    | some (name, port) => (name, some port)
    | none => (host, none)
  let (tail, fragment) := (Chars.cut '#' tail).getD (tail, [])
  let (tail, query) := (Chars.cut '?' tail).getD (tail, [])
  let (path, params) := splitParams ('/' :: tail)
  let port ← match port with
    | some text => readPort text
    | none => pure ((defaultPort? (.ofList scheme)).getD 80)
  if (defaultPort? (.ofList scheme)).isNone then throw .badScheme
  return {
    scheme := .ofList scheme
    hostname := if name = [] then "localhost" else .ofList (Chars.lower name)
    port := port
    path := .ofList path
    params := .ofList params
    query := .ofList query
    fragment := .ofList fragment }

def read (s : String) : Except Invalid Url :=
  let cs := Chars.trim s.toList
  (readChars cs).mapError (⟨.ofList cs, ·⟩)

def hasDefaultPort (u : Url) : Bool := defaultPort? u.scheme == some u.port

/-- The scheme, the host and, unless it is the default, the port. -/
def origin (u : Url) : String :=
  u.scheme ++ "://" ++ u.hostname ++ if u.hasDefaultPort then "" else ":" ++ toString u.port

/-- A part with the mark before it, nothing if it is empty. -/
def marked (mark part : String) : String := if part = "" then "" else mark ++ part

def text (u : Url) : String :=
  u.origin ++ u.path ++ marked ";" u.params ++ marked "?" u.query ++ marked "#" u.fragment

end Url
end RestShell
