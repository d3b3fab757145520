import RestShell.Line.Fault
import RestShell.Text.Blank

/-! Splitting a line into words. Blanks separate words; single quotes are literal;
inside double quotes a backslash escapes `"`, `\`, `$`, the back quote and the
newline; outside quotes it escapes any character. A pair of empty quotes makes a
word. -/

namespace RestShell

namespace Words

inductive Mode where
  | plain | single | double
deriving DecidableEq, Repr

/-- Characters that a backslash escapes inside double quotes. -/
def isEscapable (c : Char) : Bool := c == '"' || c == '\\' || c == '$' || c == '`' || c == '\n'

/-- Reads on from a mode and the open word, if one is open. -/
def scan : Mode → Option (List Char) → List Char → Except SyntaxFault (List (List Char))
  | .plain, w, [] => .ok w.toList
  | .plain, w, c :: r =>
    if Chars.isBlank c then
      match w with
      | some word => (scan .plain none r).map (word :: ·)
      | none => scan .plain none r
    else if c = '\'' then scan .single (some (w.getD [])) r
    else if c = '"' then scan .double (some (w.getD [])) r
    else if c = '\\' then
      match r with
      | [] => .error .danglingEscape
      | e :: t => scan .plain (some (w.getD [] ++ [e])) t
    else scan .plain (some (w.getD [] ++ [c])) r
  | .single, _, [] => .error .openQuotation
  | .single, w, c :: r =>
    if c = '\'' then scan .plain w r else scan .single (some (w.getD [] ++ [c])) r
  | .double, _, [] => .error .openQuotation
  | .double, w, c :: r =>
    if c = '"' then scan .plain w r
    else if c = '\\' then
      match r with
      | [] => .error .openQuotation
      | e :: t =>
        if isEscapable e then scan .double (some (w.getD [] ++ [e])) t
        else scan .double (some (w.getD [] ++ ['\\'])) (e :: t)
    else scan .double (some (w.getD [] ++ [c])) r

end Words

/-- The words of a line. -/
def splitWords (line : String) : Except SyntaxFault (List String) :=
  (Words.scan .plain none line.toList).map (·.map .ofList)

end RestShell
