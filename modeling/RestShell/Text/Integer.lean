/-! Decimal integers in text: an optional sign, then at least one digit and
nothing else. Leading zeros count for nothing. -/

namespace RestShell

namespace Chars

def isDecimal (c : Char) : Bool := '0' ≤ c && c ≤ '9'

def decimalValue (cs : List Char) : Nat := cs.foldl (fun n c => n * 10 + (c.toNat - 48)) 0

/-- The number written by digits alone. -/
def unsigned? (cs : List Char) : Option Nat :=
  if cs.isEmpty || !cs.all isDecimal then none else some (decimalValue cs)

def integer? : List Char → Option Int
  | '-' :: r => (unsigned? r).map fun n => -n
  | '+' :: r => (unsigned? r).map fun n => n
  | r => (unsigned? r).map fun n => n

/-- A natural number below 2^64; a plus sign is allowed, a minus sign is not. -/
def index? (cs : List Char) : Option Nat :=
  let ds := match cs with
    | '+' :: r => r
    | r => r
  (unsigned? ds).filter (· < Nat.pow 2 64)

end Chars

namespace Text

def integer? (s : String) : Option Int := Chars.integer? s.toList

def index? (s : String) : Option Nat := Chars.index? s.toList

end Text
end RestShell
