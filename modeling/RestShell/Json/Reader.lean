import RestShell.Json.Basic
import RestShell.Text.Utf8

/-! Reading JSON text. A reader takes the rest of the text and gives a value and
what follows it, or the cause of a fault with the place where it was noticed.
Brackets nest at most 127 deep; a key that occurs again replaces the value of
the first one. -/

namespace RestShell.Json

inductive Cause where
  | endInValue | endInList | endInObject | endInString
  | valueExpected | identifierExpected | colonExpected | listEndExpected | objectEndExpected
  | keyNotString | trailingComma | trailingText
  | badNumber | numberTooLarge
  | badEscape | loneSurrogate | surrogateCut | controlInString
  | tooDeep
deriving DecidableEq, Repr

def Cause.message : Cause → String
  | .endInValue => "EOF while parsing a value"
  | .endInList => "EOF while parsing a list"
  | .endInObject => "EOF while parsing an object"
  | .endInString => "EOF while parsing a string"
  | .valueExpected => "expected value"
  | .identifierExpected => "expected ident"
  | .colonExpected => "expected `:`"
  | .listEndExpected => "expected `,` or `]`"
  | .objectEndExpected => "expected `,` or `\x7d`"
  | .keyNotString => "key must be a string"
  | .trailingComma => "trailing comma"
  | .trailingText => "trailing characters"
  | .badNumber => "invalid number"
  | .numberTooLarge => "number out of range"
  | .badEscape => "invalid escape"
  | .loneSurrogate => "lone leading surrogate in hex escape"
  | .surrogateCut => "unexpected end of hex escape"
  | .controlInString => "control character (\\u0000-\\u001F) found while parsing a string"
  | .tooDeep => "recursion limit exceeded"

/-- A fault, noticed `ahead` bytes into `rest`. -/
structure Stop where
  cause : Cause
  rest : List Char
  ahead : Nat

/-- A fault with its line and its column, counted in bytes. -/
structure Fault where
  cause : Cause
  line : Nat
  column : Nat
deriving DecidableEq, Repr

def Fault.message (f : Fault) : String :=
  f.cause.message ++ " at line " ++ toString f.line ++ " column " ++ toString f.column

/-- The line and column reached after these bytes. -/
def position (bs : Bytes) : Nat × Nat :=
  bs.foldl (fun p b => if b = 10 then (p.1 + 1, 0) else (p.1, p.2 + 1)) (1, 0)

def Stop.locate (all : List Char) (s : Stop) : Fault :=
  let bs := Utf8.encode all
  let place := position (bs.take (bs.length - (Utf8.encode s.rest).length + s.ahead))
  ⟨s.cause, place.1, place.2⟩

abbrev Reading (α : Type) := Except Stop (α × List Char)

/-- A fault before the next byte. -/
def stop {α : Type} (cause : Cause) (rest : List Char) : Except Stop α := .error ⟨cause, rest, 0⟩

/-- A fault in the next byte. -/
def stopAt {α : Type} (cause : Cause) (rest : List Char) : Except Stop α := .error ⟨cause, rest, 1⟩

def isSpace (c : Char) : Bool := c == ' ' || c == '\n' || c == '\t' || c == '\r'

def skip (cs : List Char) : List Char := cs.dropWhile isSpace

/-- The rest of a fixed word. -/
def readWord {α : Type} (v : α) : List Char → List Char → Reading α
  | [], cs => .ok (v, cs)
  | _ :: _, [] => stop .endInValue []
  | w :: ws, c :: cs => if w = c then readWord v ws cs else stopAt .identifierExpected (c :: cs)

def hexValue (c : Char) : Option Nat :=
  if '0' ≤ c && c ≤ '9' then some (c.toNat - 48)
  else if 'a' ≤ c && c ≤ 'f' then some (c.toNat - 87)
  else if 'A' ≤ c && c ≤ 'F' then some (c.toNat - 55)
  else none

def hexFour (a b c d : Char) : Option Nat := do
  return (((← hexValue a) * 16 + (← hexValue b)) * 16 + (← hexValue c)) * 16 + (← hexValue d)

/-- The fault of four digits that are none: cut off, or not hexadecimal. -/
def badHex {α : Type} (rest : List Char) : Except Stop α :=
  if (Utf8.encode rest).length < 4 then stop .endInString [] else .error ⟨.badEscape, rest, 4⟩

def simpleEscape : Char → Option Char
  | '"' => some '"'
  | '\\' => some '\\'
  | '/' => some '/'
  | 'b' => some '\x08'
  | 'f' => some '\x0C'
  | 'n' => some '\n'
  | 'r' => some '\r'
  | 't' => some '\t'
  | _ => none

/-- The characters up to the closing quote. A pair of surrogate escapes is one
character; a surrogate alone is a fault. -/
def readChars : List Char → Reading (List Char)
  | [] => stop .endInString []
  | '"' :: r => .ok ([], r)
  | ['\\'] => stop .endInString []
  | '\\' :: 'u' :: a :: b :: c :: d :: r =>
    match hexFour a b c d with
    | none => badHex (a :: b :: c :: d :: r)
    | some n =>
      if 0xDC00 ≤ n && n ≤ 0xDFFF then stop .loneSurrogate r
      else if 0xD800 ≤ n && n ≤ 0xDBFF then
        match r with
        | '\\' :: 'u' :: e :: f :: g :: h :: t =>
          match hexFour e f g h with
          | none => badHex (e :: f :: g :: h :: t)
          | some m =>
            if 0xDC00 ≤ m && m ≤ 0xDFFF then
              (readChars t).map fun p =>
                (.ofNat ((n - 0xD800) * 1024 + (m - 0xDC00) + 0x10000) :: p.1, p.2)
            else stop .loneSurrogate t
        | '\\' :: 'u' :: t => badHex t
        | ['\\'] | [] => stop .endInString []
        | '\\' :: t => stopAt .surrogateCut t
        | t => stopAt .surrogateCut t
      else (readChars r).map fun p => (.ofNat n :: p.1, p.2)
  | '\\' :: 'u' :: r => badHex r
  | '\\' :: c :: r =>
    match simpleEscape c with
    | some x => (readChars r).map fun p => (x :: p.1, p.2)
    | none => stopAt .badEscape (c :: r)
  | c :: r =>
    if c.toNat < 0x20 then stop .controlInString r
    else (readChars r).map fun p => (c :: p.1, p.2)

def isDigit (c : Char) : Bool := '0' ≤ c && c ≤ '9'

def digitsOf (cs : List Char) : List Nat := (cs.takeWhile isDigit).map fun c => c.toNat - 48

def afterDigits (cs : List Char) : List Char := cs.dropWhile isDigit

/-- Takes digits into the significand while it stays below 2^64; gives it and
the number of digits taken. -/
def gather (significand : Nat) : List Nat → Nat × Nat
  | [] => (significand, 0)
  | d :: ds =>
    if Nat.pow 2 64 ≤ significand * 10 + d then (significand, 0)
    else let (s, n) := gather (significand * 10 + d) ds; (s, n + 1)

/-- `x / 10^k`, in steps of at most 308 places. -/
def shrink (x : Binary64) (k : Nat) : Binary64 :=
  if k ≤ 308 then x.div (.ofNat (Nat.pow 10 k))
  else if x.isZero then x
  else shrink (x.div (.ofNat (Nat.pow 10 308))) (k - 308)
termination_by k

/-- The number `significand · 10^e`, unless it is too large. The significand and
the power of ten are each rounded before they are combined. -/
def ofParts (significand : Nat) : Int → Option Binary64
  | .ofNat e =>
    if 308 < e then if significand = 0 then some (.ofNat 0) else none
    else
      let x := (Binary64.ofNat significand).mul (.ofNat (Nat.pow 10 e))
      if x.isFinite then some x else none
  | .negSucc e => some (shrink (.ofNat significand) (e + 1))

def signed (negative : Bool) (x : Binary64) : Number := .float (if negative then x.negate else x)

def finish (negative : Bool) (significand : Nat) (e : Int) (rest : List Char) : Reading Number :=
  match ofParts significand e with
  | some x => .ok (signed negative x, rest)
  | none => stop .numberTooLarge rest

/-- Takes the digits of an exponent while it stays below 2^31; gives it and the
digits left from the first that is too many on. -/
def gatherExponent (e : Nat) : List Char → Nat × List Char
  | [] => (e, [])
  | c :: cs =>
    if isDigit c && e * 10 + (c.toNat - 48) < Nat.pow 2 31 then
      gatherExponent (e * 10 + (c.toNat - 48)) cs
    else (e, c :: cs)

/-- What follows `e` or `E`. -/
def readExponent (negative : Bool) (significand : Nat) (start : Int) (cs : List Char) :
    Reading Number :=
  let (down, ds) := match cs with
    | '+' :: r => (false, r)
    | '-' :: r => (true, r)
    | r => (false, r)
  match ds with
  | [] => stop .endInValue []
  | c :: _ =>
    if isDigit c then
      match gatherExponent 0 ds with
      | (e, d :: r) =>
        if isDigit d then
          if significand ≠ 0 ∧ down = false then stopAt .numberTooLarge (d :: r)
          else .ok (signed negative (.ofNat 0), afterDigits r)
        else finish negative significand (if down then start - e else start + e) (d :: r)
      | (e, []) => finish negative significand (if down then start - e else start + e) []
    else stopAt .badNumber ds

/-- What follows the point; `dropped` digits of the whole part did not fit. -/
def readFraction (negative : Bool) (significand dropped : Nat) (cs : List Char) : Reading Number :=
  match digitsOf cs, cs with
  | [], [] => stop .endInValue []
  | [], r => stopAt .badNumber r
  | ds, cs =>
    let (s, n) := gather significand ds
    let e : Int := (dropped : Int) - n
    match afterDigits cs with
    | 'e' :: r | 'E' :: r => readExponent negative s e r
    | r => finish negative s e r

/-- An integer keeps its kind when it is in range; `-0` is a fraction. -/
def ofInteger (negative : Bool) (n : Nat) : Number :=
  if negative then
    if n = 0 ∨ Nat.pow 2 63 < n then signed true (.ofNat n) else .int (-n)
  else .int n

/-- A number without its sign. -/
def readNumber (negative : Bool) : List Char → Reading Number
  | [] => stop .endInValue []
  | c :: r =>
    if c = '0' ∧ (digitsOf r).isEmpty = false then stopAt .badNumber r
    else if isDigit c then
      let ds := digitsOf (c :: r)
      let (s, n) := gather 0 ds
      match afterDigits (c :: r) with
      | '.' :: t => readFraction negative s (ds.length - n) t
      | 'e' :: t | 'E' :: t => readExponent negative s (ds.length - n : Nat) t
      | t => if n = ds.length then .ok (ofInteger negative s, t)
        else finish negative s (ds.length - n : Nat) t
    else stopAt .badNumber (c :: r)

/-- The items after an opening bracket or a comma. -/
def readItems (item : List Char → Reading Value) :
    Nat → List Char → Except Stop (List Value × List Char)
  | 0, cs => stop .endInList cs
  | fuel + 1, cs => do
    let (v, r) ← item cs
    match skip r with
    | ']' :: t => return ([v], t)
    | ',' :: t =>
      match skip t with
      | [] => stop .endInValue []
      | ']' :: u => stopAt .trailingComma (']' :: u)
      | u =>
        let (vs, w) ← readItems item fuel u
        return (v :: vs, w)
    | [] => stop .endInList []
    | t => stopAt .listEndExpected t

/-- The fields after an opening brace or a comma. -/
def readFields (item : List Char → Reading Value) :
    Nat → List Char → Except Stop (List (String × Value) × List Char)
  | 0, cs => stop .endInObject cs
  | _ + 1, [] => stop .endInObject []
  | fuel + 1, '"' :: cs => do
    let (k, r) ← readChars cs
    match skip r with
    | [] => stop .endInObject []
    | ':' :: t =>
      let (v, u) ← item t
      match skip u with
      | '}' :: w => return ([(.ofList k, v)], w)
      | ',' :: w =>
        match skip w with
        | [] => stop .endInValue []
        | '}' :: x => stopAt .trailingComma ('}' :: x)
        | x =>
          let (fs, y) ← readFields item fuel x
          return ((.ofList k, v) :: fs, y)
      | [] => stop .endInObject []
      | w => stopAt .objectEndExpected w
    | t => stopAt .colonExpected t
  | _ + 1, cs => stopAt .keyNotString cs

/-- A value, its items read by `nested`; with none, brackets are too deep. -/
def readWith (nested : Option (List Char → Reading Value)) (cs : List Char) : Reading Value :=
  match skip cs with
  | [] => stop .endInValue []
  | 'n' :: r => readWord .null ['u', 'l', 'l'] r
  | 't' :: r => readWord (.bool true) ['r', 'u', 'e'] r
  | 'f' :: r => readWord (.bool false) ['a', 'l', 's', 'e'] r
  | '"' :: r => (readChars r).map fun p => (.string (.ofList p.1), p.2)
  | '-' :: r => (readNumber true r).map fun p => (.number p.1, p.2)
  | '[' :: r =>
    match nested with
    | none => stopAt .tooDeep ('[' :: r)
    | some item =>
      match skip r with
      | ']' :: t => .ok (.array [], t)
      | [] => stop .endInList []
      | t => (readItems item (t.length + 1) t).map fun p => (.array p.1, p.2)
  | '{' :: r =>
    match nested with
    | none => stopAt .tooDeep ('{' :: r)
    | some item =>
      match skip r with
      | '}' :: t => .ok (.object [], t)
      | [] => stop .endInObject []
      | t => (readFields item (t.length + 1) t).map fun p => (.object (Assoc.merge [] p.1), p.2)
  | c :: r =>
    if isDigit c then (readNumber false (c :: r)).map fun p => (.number p.1, p.2)
    else stopAt .valueExpected (c :: r)

/-- A value with brackets at most `depth` deep. -/
def readValue : Nat → List Char → Reading Value
  | 0 => readWith none
  | depth + 1 => readWith (some (readValue depth))

/-- The deepest nesting that is read. -/
def depthLimit : Nat := 127

def readChars? (cs : List Char) : Except Stop Value := do
  let (v, r) ← readValue depthLimit cs
  match skip r with
  | [] => return v
  | t => stopAt .trailingText t

/-- Reads a whole text. -/
def read (s : String) : Except Fault Value :=
  (readChars? s.toList).mapError (Stop.locate s.toList)

/-- Reads bytes; text that is not UTF-8 is no JSON. -/
def readBytes? (bs : Bytes) : Option Value :=
  (Utf8.decode? bs).bind fun cs => (readChars? cs).toOption

end RestShell.Json
