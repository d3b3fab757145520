/-! Blank characters and trimming. The blank characters are the twenty-five
code points of the Unicode property `White_Space`; trimming drops them from
both ends and from nowhere else. -/

namespace RestShell

namespace Chars

/-- The `White_Space` property: tab to carriage return, space, next line,
no-break space, and the spaces and separators of the higher planes. -/
def isBlank (c : Char) : Bool :=
  let n := c.toNat
  (9 ≤ n && n ≤ 13) || n == 32 || n == 0x85 || n == 0xA0 || n == 0x1680 ||
    (0x2000 ≤ n && n ≤ 0x200A) || n == 0x2028 || n == 0x2029 || n == 0x202F ||
    n == 0x205F || n == 0x3000

def trimStart (cs : List Char) : List Char := cs.dropWhile isBlank

def trimEnd (cs : List Char) : List Char := (trimStart cs.reverse).reverse

def trim (cs : List Char) : List Char := trimEnd (trimStart cs)

/-- Drops every leading and trailing occurrence of `mark`. -/
def trimMark (mark : Char) (cs : List Char) : List Char :=
  ((cs.dropWhile (· == mark)).reverse.dropWhile (· == mark)).reverse

theorem isBlank_of_isWhitespace {c : Char} (h : c.isWhitespace = true) : isBlank c = true := by
  simp only [Char.isWhitespace, Bool.or_eq_true, decide_eq_true_eq] at h
  rcases h with ((rfl | rfl) | rfl) | rfl <;> decide

end Chars

namespace Text

/-- The text without its leading and trailing blanks. -/
def trim (s : String) : String := .ofList (Chars.trim s.toList)

/-- True of a text that holds nothing but blanks. -/
def isBlank (s : String) : Bool := s.toList.all Chars.isBlank

/-- The text without the quotes at either end. -/
def unquote (s : String) : String := .ofList (Chars.trimMark '"' s.toList)

@[simp] theorem toList_trim (s : String) : (trim s).toList = Chars.trim s.toList := by
  simp [trim]

end Text
end RestShell
