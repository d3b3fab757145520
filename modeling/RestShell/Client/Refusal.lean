import RestShell.Client.Basic

/-! Requests that cannot be sent at all: a method that is no token, an address that is no
URL or of another scheme, a header that may not stand in a message. They are refused
before any connection is made. -/

namespace RestShell

namespace Chars

/-- Characters of methods and header names. -/
def isToken (c : Char) : Bool :=
  c.isAlphanum ||
    ['!', '#', '$', '%', '&', '\'', '*', '+', '-', '.', '^', '_', '`', '|', '~'].contains c

def isTokenText (cs : List Char) : Bool := !cs.isEmpty && cs.all isToken

/-- Characters of header values: all but the controls, the tab excepted. -/
def isValueChar (c : Char) : Bool := c == '\t' || (0x20 ≤ c.toNat && c.toNat != 0x7F)

/-- The scheme of an address and what follows its colon. -/
def addressScheme? (cs : List Char) : Option (List Char × List Char) :=
  match cs with
  | [] => none
  | c :: _ =>
    let isRest (c : Char) : Bool := c.isAlphanum || c == '+' || c == '-' || c == '.'
    match cs.dropWhile isRest with
    | ':' :: rest => if c.isAlpha then some ((cs.takeWhile isRest).map asciiLower, rest) else none
    | _ => none

end Chars

namespace Request

/-- How an address is refused for its scheme; the special schemes have a path after
their host. -/
def foreignAddress (scheme rest : List Char) : String :=
  let special := ["ftp", "ws", "wss"].contains (String.ofList scheme)
  let tail := rest.dropWhile (· == '/')
  let host := tail.takeWhile fun c => c != '/' && c != '?' && c != '#'
  let after := tail.drop host.length
  let text := if special then
      let root := if after.head? = some '/' then [] else ['/']
      ['/', '/'] ++ host.map Chars.asciiLower ++ root ++ after
    else rest
  "builder error for url (" ++ String.ofList (scheme ++ ':' :: text) ++ ")"

/-- Why an address cannot be asked for. -/
def addressFault? (url : String) : Option String :=
  let cs := Chars.trim url.toList
  match Chars.addressScheme? cs with
  | none => some "builder error"
  | some (scheme, rest) =>
    if scheme = ['h', 't', 't', 'p'] ∨ scheme = ['h', 't', 't', 'p', 's'] then
      let tail := rest.dropWhile fun c => c == '/' || c == '\\'
      let authority := tail.takeWhile fun c => c != '/' && c != '\\' && c != '?' && c != '#'
      let host := (Chars.split '@' authority).getLastD []
      let name := host.takeWhile (· != ':')
      let port := (host.drop name.length).drop 1
      let forbidden (c : Char) : Bool := c.toNat ≤ 0x20 || c.toNat == 0x7F ||
        ['<', '>', '^', '|', '%', '[', ']'].contains c
      let badPort := !port.all Chars.isDecimal || 65535 < Chars.decimalValue port
      if name = [] || name.any forbidden || badPort then some "builder error" else none
    else some (foreignAddress scheme rest)

/-- Why a request cannot be sent, if it cannot. -/
def refusal? (r : Request) : Option String :=
  if !Chars.isTokenText r.method.toList then
    some ("invalid method " ++ r.method ++ ": invalid HTTP method")
  else
    let badHeader := r.headers.any fun h =>
      !Chars.isTokenText h.1.toList || !h.2.toList.all Chars.isValueChar
    match addressFault? r.url with
    | some "builder error" => some "builder error"
    | fault => if badHeader then some "builder error" else fault

end Request

/-- A transport without a network: what can be sent at all finds nobody. -/
def Transport.unreachable : Transport := fun _ r =>
  .error (r.refusal?.getD ("error sending request for url (" ++ r.url ++ ")"))

end RestShell
