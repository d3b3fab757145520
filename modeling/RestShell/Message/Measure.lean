import RestShell.Decimal.Places
import RestShell.Decimal.Shortest

/-! Durations and sizes as they are shown. The unit is chosen by the exact amount; the
amount is rounded afterwards. -/

namespace RestShell

structure Elapsed where
  milliseconds : Nat
deriving DecidableEq, Repr

/-- Whole milliseconds; what is less than one does not count. -/
def Elapsed.ofMicroseconds (n : Nat) : Elapsed := ⟨n / 1000⟩

/-- Milliseconds below one second, seconds with two places below one minute, minutes
and seconds below one hour, hours and minutes from there on. -/
def Elapsed.text (e : Elapsed) : String :=
  let ms := e.milliseconds
  if ms < 1000 then toString ms ++ " ms"
  else if ms < 60000 then Places.text 2 (.div (.ofNat ms) (.ofNat 1000)) ++ " s"
  else if ms < 3600000 then toString (ms / 60000) ++ "m " ++ toString (ms % 60000 / 1000) ++ "s"
  else toString (ms / 3600000) ++ "h " ++ toString (ms % 3600000 / 60000) ++ "m"

/-- A number of bytes in the unit it is shown in. -/
structure ByteSize where
  bytes : Nat
  amount : Binary64
  unit : String
deriving DecidableEq, Repr

namespace ByteSize

/-- Divides by 1024 while the amount is at least that and a greater unit is left. -/
def scale : Binary64 → String → List String → Binary64 × String
  | x, unit, [] => (x, unit)
  | x, unit, greater :: more =>
    if x.ratio.1 < 1024 * x.ratio.2 then (x, unit) else scale (.div x (.ofNat 1024)) greater more

/-- The amount with at most two places, a half going up. -/
def round (x : Binary64) : Binary64 :=
  let hundredths := x.mul (.ofNat 100)
  .div (.ofNat (roundUp hundredths.ratio.1 hundredths.ratio.2)) (.ofNat 100)

def ofBytes (n : Nat) : ByteSize :=
  let (x, unit) := scale (.ofNat n) "B" ["KB", "MB", "GB"]
  ⟨n, round x, unit⟩

/-- Positional, without a point in a whole number. -/
def style : NumberStyle := ⟨none, none, false⟩

def text (s : ByteSize) : String := style.text s.amount ++ " " ++ s.unit

end ByteSize
end RestShell
