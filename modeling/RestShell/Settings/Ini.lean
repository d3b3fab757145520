import RestShell.Text.Blank
import RestShell.Assoc

/-! Settings files. A section starts with its name in square brackets; an entry is a key,
`=` or `:`, and a value to the end of the line, parts of which may be quoted; a
backslash escapes. A comment is a line that starts with `;` or `#`. Everything between
two entries is the next key, newlines included. -/

namespace RestShell

namespace Ini

inductive Fault where
  /-- A comment that does not start its line. -/
  | indentedComment
  | missingKey
  /-- The text ends where one of some characters has to come, `none` standing for an end
  that would be as good. -/
  | ended (expecting : List (Option Char))
  /-- An escape by number that stands for no character. -/
  | badCode
deriving DecidableEq, Repr

/-- A fault and what is left at it, the character in question included. -/
structure Stop where
  fault : Fault
  left : List Char
deriving DecidableEq, Repr

def hexValue? (c : Char) : Option Nat :=
  if '0' ≤ c && c ≤ '9' then some (c.toNat - 48)
  else if 'a' ≤ c && c ≤ 'f' then some (c.toNat - 87)
  else if 'A' ≤ c && c ≤ 'F' then some (c.toNat - 55)
  else none

/-- The character of four hexadecimal digits; a plus may stand for the first. -/
def code? (a b c d : Char) : Option Char := do
  let high ← if a = '+' then some 0 else hexValue? a
  let n := high * 4096 + (← hexValue? b) * 256 + (← hexValue? c) * 16 + (← hexValue? d)
  if 0xD800 ≤ n && n ≤ 0xDFFF then none else some (.ofNat n)

/-- What a letter behind a backslash stands for; any other character for itself. -/
def unescape : Char → Char
  | '0' => '\x00'
  | 'a' => '\x07'
  | 'b' => '\x08'
  | 't' => '\t'
  | 'r' => '\r'
  | 'n' => '\n'
  | c => c

/-- The text up to one of the ends, escapes resolved; an escaped newline counts for nothing.
The end `none` is that of the file. -/
def textUntil (ends : List (Option Char)) : List Char → Except Stop (List Char × List Char)
  | [] => if ends.contains none then .ok ([], []) else .error ⟨.ended ends, []⟩
  | c :: r =>
    if ends.contains (some c) then .ok ([], c :: r)
    else if c = '\\' then
      match r with
      | [] => if ends.contains none then .ok (['\\'], []) else .error ⟨.ended ends, []⟩
      | '\n' :: s => textUntil ends s
      | 'x' :: a :: b :: c :: d :: s =>
        match code? a b c d with
        | some x => (textUntil ends s).map fun p => (x :: p.1, p.2)
        | none => .error ⟨.badCode, d :: s⟩
      | e :: s =>
        if e = 'x' then .error ⟨.ended ends, []⟩
        else (textUntil ends s).map fun p => (unescape e :: p.1, p.2)
    else (textUntil ends r).map fun p => (c :: p.1, p.2)

def isLineBreak (c : Char) : Bool := c == '\n' || c == '\r'

/-- A value from behind its quoted beginnings on, the last part trimmed; only at the
very start is it trimmed on the left as well. -/
def valueFrom (first : Bool) : Nat → List Char → Except Stop (List Char × List Char)
  | 0, cs => .ok ([], cs)
  | fuel + 1, cs =>
    match cs with
    | [] => .ok ([], [])
    | q :: r =>
      if q = '"' ∨ q = '\'' then do
        let (quoted, rest) ← textUntil [some q] r
        let (more, rest) ← valueFrom false fuel (rest.drop 1)
        return (quoted ++ more, rest)
      else do
        let (text, rest) ← textUntil [some '\n', some '\r', none] cs
        return (if first then Chars.trim text else Chars.trimEnd text, rest)

/-- The value behind the mark that separates it from its key. -/
def value (cs : List Char) : Except Stop (List Char × List Char) :=
  let cs := cs.dropWhile fun c => Chars.isBlank c && !isLineBreak c
  valueFrom true (cs.length + 1) cs

end Ini

/-- Sections in order, the same name possibly several times; entries before the first
section stand under no name. -/
abbrev Ini := List (Option String × Assoc String)

namespace Ini

/-- One more entry for the last section of a name. -/
def addEntry (name : Option String) (entry : String × String) : Ini → Ini
  | [] => [(name, [entry])]
  | s :: r =>
    if s.1 = name ∧ !r.any (·.1 == name) then (s.1, s.2 ++ [entry]) :: r
    else s :: addEntry name entry r

/-- Reads on with the current section, the pending key and the column of the first
character. -/
def readFrom (before : Option Char) (name : Option String) (key : List Char) (ini : Ini) :
    Nat → List Char → Except Stop Ini
  | 0, _ => .ok ini
  | fuel + 1, cs =>
    let blanks := cs.takeWhile Chars.isBlank
    let before := (blanks.getLast?).orElse fun _ => before
    match cs.dropWhile Chars.isBlank with
    | [] => .ok ini
    | c :: r =>
      if c = ';' ∨ c = '#' then
        if before.all (· == '\n') then
          readFrom (some '\n') name key ini fuel ((r.dropWhile (· != '\n')).drop 1)
        else .error ⟨.indentedComment, c :: r⟩
      else if c = '[' then do
        let (title, rest) ← textUntil [some ']'] r
        let title := some (String.ofList (Chars.trim title))
        readFrom (some ']') title key (ini ++ [(title, [])]) fuel (rest.drop 1)
      else if c = '=' ∨ c = ':' then
        if key = [] then .error ⟨.missingKey, c :: r⟩
        else do
          let (text, rest) ← value r
          readFrom (some c) name [] (addEntry name (.ofList key, .ofList text) ini) fuel rest
      else do
        let (text, rest) ← textUntil [some '=', some ':'] (c :: r)
        readFrom (some c) name (Chars.trim text) ini fuel rest

/-- A fault at a line and a column, both from one on. -/
structure ParseError where
  line : Nat
  column : Nat
  fault : Fault
deriving DecidableEq, Repr

/-- The place of a fault: the character in question counts as read. -/
def locate (all : List Char) (stop : Stop) : ParseError :=
  let seen := all.take (all.length - stop.left.length + 1)
  let line := seen.reverse.takeWhile (· != '\n')
  ⟨seen.count '\n' + 1, line.length + 1, stop.fault⟩

/-- The sections of a settings file. -/
def read (content : String) : Except ParseError Ini :=
  let cs := content.toList
  (readFrom none none [] [] (cs.length + 1) cs).mapError (locate cs)

/-- The first entry of a key in the first section of a name. -/
def section? (name : String) (ini : Ini) : Option (Assoc String) :=
  (ini.find? (·.1 == some name)).map Prod.snd

def endText : Option Char → String
  | none => "None"
  | some '\'' => "Some('\\'')"
  | some '\n' => "Some('\\n')"
  | some '\r' => "Some('\\r')"
  | some c => "Some('" ++ c.toString ++ "')"

def listed : List (Option Char) → String
  | [] => ""
  | [c] => endText c
  | c :: d :: r => endText c ++ ", " ++ listed (d :: r)

def Fault.message : Fault → String
  | .indentedComment => "doesn't support inline comment"
  | .missingKey => "missing key"
  | .ended expecting => "expecting \"[" ++ listed expecting ++ "]\" but found EOF."
  | .badCode => "unknown character in \\xHH form"

def ParseError.message (e : ParseError) : String :=
  toString e.line ++ ":" ++ toString e.column ++ " " ++ e.fault.message

end Ini
end RestShell
