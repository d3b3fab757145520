import RestShell.Text.Case
import RestShell.Text.WordTable

/-! The word characters, of which the name of a URL scheme is made. -/

namespace RestShell.Chars

def isWord (c : Char) : Bool :=
  if c.toNat < 0x80 then c.isAlphanum || c == '_' else inRanges Text.WordTable.ranges c

end RestShell.Chars
