import RestShell.Decimal.Binary64

/-! Decimals with a fixed number of places. The exact value of a binary number
is rounded once to the asked grid, a tie going to the even neighbour. -/

namespace RestShell.Places

/-- `n` hundredths, thousandths, …: the last `places` digits stand behind the point. -/
def chars (places n : Nat) : List Char :=
  let behind := Nat.toDigits 10 (n % Nat.pow 10 places)
  Nat.toDigits 10 (n / Nat.pow 10 places) ++
    if places = 0 then [] else '.' :: List.replicate (places - behind.length) '0' ++ behind

/-- The magnitude of `x` in units of the last place. -/
def units (places : Nat) (x : Binary64) : Nat :=
  roundEven (x.ratio.1 * Nat.pow 10 places) x.ratio.2

def text (places : Nat) (x : Binary64) : String := .ofList (chars places (units places x))

example : chars 2 150 = ['1', '.', '5', '0'] := by decide
example : chars 2 5 = ['0', '.', '0', '5'] := by decide

end RestShell.Places
