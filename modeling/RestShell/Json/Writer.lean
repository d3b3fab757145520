import RestShell.Json.Basic
import RestShell.Decimal.Shortest

/-! The compact text of a JSON value: no blanks, fields in order, in a string
only the quote, the backslash and the control characters escaped. -/

namespace RestShell.Json

/-- Positional from 10^-5 to below 10^16, whole numbers with `.0`. -/
def floatStyle : NumberStyle := ⟨some (-5), some 15, true⟩

def Number.chars : Number → List Char
  | .int (.ofNat n) => Nat.toDigits 10 n
  | .int (.negSucc n) => '-' :: Nat.toDigits 10 (n + 1)
  | .float x => floatStyle.chars x

def hexDigit (n : Nat) : Char := (Nat.toDigits 16 (n % 16)).headD '0'

/-- One character inside quotes. -/
def escape (c : Char) : List Char :=
  if c = '"' then ['\\', '"']
  else if c = '\\' then ['\\', '\\']
  else if 0x20 ≤ c.toNat then [c]
  else if c = '\x08' then ['\\', 'b']
  else if c = '\t' then ['\\', 't']
  else if c = '\n' then ['\\', 'n']
  else if c = '\x0C' then ['\\', 'f']
  else if c = '\r' then ['\\', 'r']
  else ['\\', 'u', '0', '0', hexDigit (c.toNat / 16), hexDigit c.toNat]

def quote (cs : List Char) : List Char := '"' :: cs.flatMap escape ++ ['"']

mutual
def Value.chars : Value → List Char
  | .null => ['n', 'u', 'l', 'l']
  | .bool true => ['t', 'r', 'u', 'e']
  | .bool false => ['f', 'a', 'l', 's', 'e']
  | .number n => n.chars
  | .string s => quote s.toList
  | .array items => '[' :: itemChars items ++ [']']
  | .object fields => '{' :: fieldChars fields ++ ['}']
def itemChars : List Value → List Char
  | [] => []
  | [v] => v.chars
  | v :: w :: r => v.chars ++ ',' :: itemChars (w :: r)
def fieldChars : List (String × Value) → List Char
  | [] => []
  | [(k, v)] => quote k.toList ++ ':' :: v.chars
  | (k, v) :: e :: r => quote k.toList ++ ':' :: v.chars ++ ',' :: fieldChars (e :: r)
end

/-- The compact text. -/
def Value.text (v : Value) : String := .ofList v.chars

end RestShell.Json
