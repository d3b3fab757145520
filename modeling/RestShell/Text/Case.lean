import RestShell.Text.CaseTable

/-! Letter case. Lower and upper case follow the Unicode tables, a few letters
giving more than one; a capital sigma that ends a word becomes the final sigma.
Header names and content types compare in ASCII case only. -/

namespace RestShell

namespace Chars
open Text

def inRanges (rs : List (Nat × Nat)) (c : Char) : Bool :=
  rs.any fun r => r.1 ≤ c.toNat && c.toNat ≤ r.2

def asciiLower (c : Char) : Char :=
  if 'A' ≤ c && c ≤ 'Z' then .ofNat (c.toNat + 32) else c

def asciiUpper (c : Char) : Char :=
  if 'a' ≤ c && c ≤ 'z' then .ofNat (c.toNat - 32) else c

/-- The code point moved by the row that covers it. -/
def shifted (rows : List (Nat × Nat × Nat × Int)) (c : Char) : Char :=
  match rows.find? fun r => r.1 ≤ c.toNat && c.toNat ≤ r.2.1 && (c.toNat - r.1) % r.2.2.1 == 0 with
  | some r => .ofNat ((c.toNat : Int) + r.2.2.2).toNat
  | none => c

def lowerChar (c : Char) : List Char :=
  if c.toNat < 0x80 then [asciiLower c]
  else if c = '\u0130' then ['i', '\u0307']
  else [shifted CaseTable.lower c]

def upperChar (c : Char) : List Char :=
  if c.toNat < 0x80 then [asciiUpper c]
  else match CaseTable.upperSequences.lookup c.toNat with
    | some ns => ns.map .ofNat
    | none => [shifted CaseTable.upper c]

def isCased (c : Char) : Bool := inRanges CaseTable.cased c

def isIgnorable (c : Char) : Bool := inRanges CaseTable.ignorable c

/-- True when, ignorable characters apart, the next one is a letter. -/
def meetsLetter (cs : List Char) : Bool := (cs.dropWhile isIgnorable).head?.any isCased

/-- Lower case of a text whose reversed beginning is `before`. -/
def lowerAfter (before : List Char) : List Char → List Char
  | [] => []
  | c :: r =>
    let here := if c = 'Σ' then
        if meetsLetter before && !meetsLetter r then ['ς'] else ['σ']
      else lowerChar c
    here ++ lowerAfter (c :: before) r

def lower (cs : List Char) : List Char := lowerAfter [] cs

def upper (cs : List Char) : List Char := cs.flatMap upperChar

end Chars

namespace Text

def lower (s : String) : String := .ofList (Chars.lower s.toList)

def upper (s : String) : String := .ofList (Chars.upper s.toList)

def asciiLower (s : String) : String := .ofList (s.toList.map Chars.asciiLower)

/-- Equal but for ASCII case. -/
def sameName (a b : String) : Bool := asciiLower a == asciiLower b

end Text
end RestShell
