import RestShell.Json.Writer
import RestShell.Text.Split
import RestShell.Text.Utf8

/-! Query strings. A mapping is encoded as one `key=value` pair per leaf, a
nested key in brackets after its parent's and a list element by its index;
merging joins queries with `&`; decoding collects the values of each key. -/

namespace RestShell

open Json

namespace Chars

/-- Bytes that stand for themselves: letters, digits and `-_.~/`. -/
def isPlainByte (b : UInt8) : Bool :=
  let c := Char.ofNat b.toNat
  b < 0x80 && (c.isAlphanum || c == '-' || c == '_' || c == '.' || c == '~' || c == '/')

def upperHex (n : Nat) : Char := ((Nat.toDigits 16 (n % 16)).headD '0').toUpper

def percentByte (b : UInt8) : List Char :=
  if isPlainByte b then [.ofNat b.toNat] else ['%', upperHex (b.toNat / 16), upperHex b.toNat]

/-- Every other byte of the UTF-8 form as `%` and two hexadecimal digits. -/
def percentEncode (cs : List Char) : List Char := (Utf8.encode cs).flatMap percentByte

/-- The text of a leaf: `1` and `0` for the truth values, nothing for null, a
string as it is, anything else as JSON. -/
def leafText : Value → List Char
  | .bool true => ['1']
  | .bool false => ['0']
  | .null => []
  | .string s => s.toList
  | v => v.chars

/-- One pair, with the `&` that follows it. -/
def pair (key : List Char) (v : Value) : List Char :=
  key ++ '=' :: percentEncode (leafText v) ++ ['&']

def inBrackets (cs : List Char) : List Char := percentEncode ('[' :: cs ++ [']'])

/-- The pairs of a list, numbered from `i`. -/
def indexedPairs (key : List Char) : Nat → List Value → List Char
  | _, [] => []
  | i, v :: r => pair (key ++ inBrackets (Nat.toDigits 10 i)) v ++ indexedPairs key (i + 1) r

/-- The key of a field: at the top by itself, inside a mapping in brackets. -/
def fieldKey (top name : List Char) : List Char :=
  if top = [] then percentEncode name else top ++ inBrackets name

/-- At the top the last `&` is dropped. -/
def closePairs (top cs : List Char) : List Char :=
  if top = [] ∧ cs.getLast? = some '&' then cs.dropLast else cs

mutual
def valuePairs (key : List Char) : Value → List Char
  | .object fields => closePairs key (fieldPairs key fields)
  | .array items => indexedPairs key 0 items
  | .null => pair key .null
  | .bool b => pair key (.bool b)
  | .number n => pair key (.number n)
  | .string s => pair key (.string s)
def fieldPairs (top : List Char) : List (String × Value) → List Char
  | [] => []
  | (name, v) :: r => valuePairs (fieldKey top name.toList) v ++ fieldPairs top r
end

def dropQuestion : List Char → List Char
  | '?' :: r => r
  | cs => cs

/-- Two queries, each without a leading `?`, an empty one left out. -/
def mergeQueries (a b : List Char) : List Char :=
  let x := dropQuestion a
  let y := dropQuestion b
  if y = [] then x else if x = [] then y else x ++ '&' :: y

/-- The URL with the query added to what it has; closing `?`s are dropped. -/
def addQuery (url query : List Char) : List Char :=
  let query := dropQuestion query
  let merged := match cut '?' url with
    | some (base, own) => base ++ '?' :: mergeQueries own query
    | none => url ++ '?' :: query
  (merged.reverse.dropWhile (· == '?')).reverse

def hexByte? (a b : UInt8) : Option UInt8 := do
  let digit (x : UInt8) : Option UInt8 :=
    if 48 ≤ x && x ≤ 57 then some (x - 48)
    else if 65 ≤ x && x ≤ 70 then some (x - 55)
    else if 97 ≤ x && x ≤ 102 then some (x - 87)
    else none
  return (← digit a) * 16 + (← digit b)

/-- Bytes with each `%` and two hexadecimal digits replaced by the byte they name. -/
def percentDecode : Bytes → Bytes
  | [] => []
  | [b] => [b]
  | [b, c] => [b, c]
  | b :: c :: d :: r =>
    if b = 37 then
      match hexByte? c d with
      | some x => x :: percentDecode r
      | none => b :: percentDecode (c :: d :: r)
    else b :: percentDecode (c :: d :: r)

/-- A key or value as it was before encoding, `+` standing for a space. -/
def decodePart (cs : List Char) : List Char :=
  Utf8.decodeLossy (percentDecode ((Utf8.encode cs).map fun b => if b = 43 then 32 else b))

/-- The decoded pairs; empty parts are skipped and a missing `=` means no value. -/
def queryPairs (cs : List Char) : List (List Char × List Char) :=
  ((split '&' cs).filter fun p => !p.isEmpty).map fun p =>
    let (k, v) := (cut '=' p).getD (p, [])
    (decodePart k, decodePart v)

end Chars

namespace Query

/-- The query string of a mapping under an already encoded key, which is empty
at the top. -/
def build (top : String) (fields : List (String × Value)) : String :=
  .ofList (Chars.closePairs top.toList (Chars.fieldPairs top.toList fields))

def merge (a b : String) : String := .ofList (Chars.mergeQueries a.toList b.toList)

def addTo (url query : String) : String := .ofList (Chars.addQuery url.toList query.toList)

/-- One more value for a key: alone a string, with others a list. -/
def collect (m : Assoc Value) (k : String) (v : String) : Assoc Value :=
  match m.get? k with
  | some (.array items) => m.put k (.array (items ++ [.string v]))
  | some first => m.put k (.array [first, .string v])
  | none => m.put k (.string v)

/-- The mapping of a query; without `blanks`, empty values are dropped. -/
def parse (blanks : Bool) (query : String) : Assoc Value :=
  let pairs := Chars.queryPairs (Chars.dropQuestion query.toList)
  let kept := pairs.filter fun p => blanks || !p.2.isEmpty
  kept.foldl (fun m p => collect m (.ofList p.1) (.ofList p.2)) []

end Query

/-- A query in any of the shapes a caller has at hand. -/
inductive Query where
  | text (s : String)
  | pairs (ps : List String)
  | params (fields : List (String × Value))

def Query.render : Query → String
  | .text s => s
  | .pairs ps => Text.join '&' ps
  | .params fields => Query.build "" fields

end RestShell
