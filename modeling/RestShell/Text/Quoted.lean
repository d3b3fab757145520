import RestShell.Text.Case
import RestShell.Text.PrintTable

/-! A text between double quotes in which everything that could be mistaken is
escaped: the quote and the backslash, controls by letter or by number, and code
points without a visible form of their own. -/

namespace RestShell

namespace Chars

def isHidden (c : Char) : Bool :=
  c != ' ' && (inRanges Text.PrintTable.hidden c || inRanges Text.PrintTable.attached c)

def escapeVisible (c : Char) : List Char :=
  if c = '"' then ['\\', '"']
  else if c = '\\' then ['\\', '\\']
  else if c = '\x00' then ['\\', '0']
  else if c = '\t' then ['\\', 't']
  else if c = '\n' then ['\\', 'n']
  else if c = '\r' then ['\\', 'r']
  else if isHidden c then ['\\', 'u', '{'] ++ Nat.toDigits 16 c.toNat ++ ['}']
  else [c]

end Chars

namespace Text

def quoted (s : String) : String := .ofList ('"' :: s.toList.flatMap Chars.escapeVisible ++ ['"'])

end Text
end RestShell
