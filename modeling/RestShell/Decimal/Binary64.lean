/-! Binary floating point of 64 bits in exact arithmetic. A number is its bit
pattern; a finite one is `m · 2^q` with a sign. Every operation computes the
exact quotient of two naturals and rounds it once, to the nearest representable
number and on a tie to the one with the even significand. -/

namespace RestShell

/-- The quotient rounded to the nearest natural, a tie to the even neighbour. -/
def roundEven (num den : Nat) : Nat :=
  let q := num / den
  let r := num % den
  if 2 * r < den then q else if den < 2 * r then q + 1 else q + q % 2

/-- The quotient rounded to the nearest natural, a tie upwards. -/
def roundUp (num den : Nat) : Nat := (2 * num + den) / (2 * den)

structure Binary64 where
  bits : UInt64
deriving DecidableEq, Repr

namespace Binary64

instance : Inhabited Binary64 := ⟨⟨0⟩⟩

def isNegative (x : Binary64) : Bool := 0x8000000000000000 ≤ x.bits.toNat

def exponentField (x : Binary64) : Nat := x.bits.toNat / Nat.pow 2 52 % 2048

def fraction (x : Binary64) : Nat := x.bits.toNat % Nat.pow 2 52

def isFinite (x : Binary64) : Bool := x.exponentField != 2047

/-- The significand of the magnitude: the fraction, with its hidden bit when
the number is normal. -/
def significand (x : Binary64) : Nat :=
  if x.exponentField = 0 then x.fraction else x.fraction + Nat.pow 2 52

/-- The power of two that the significand counts. -/
def exponent (x : Binary64) : Int :=
  if x.exponentField = 0 then -1074 else (x.exponentField : Int) - 1075

/-- The magnitude as a quotient of naturals. -/
def ratio (x : Binary64) : Nat × Nat :=
  match x.exponent with
  | .ofNat e => (x.significand * Nat.pow 2 e, 1)
  | .negSucc e => (x.significand, Nat.pow 2 (e + 1))

/-- The pattern of `m · 2^q`, infinity when the exponent is out of range. -/
def assemble (negative : Bool) (m : Nat) (q : Int) : Binary64 :=
  let sign := if negative then Nat.pow 2 63 else 0
  if m < Nat.pow 2 52 then ⟨.ofNat (sign + m)⟩
  else if 971 < q then ⟨.ofNat (sign + 2047 * Nat.pow 2 52)⟩
  else ⟨.ofNat (sign + (q + 1075).toNat * Nat.pow 2 52 + (m - Nat.pow 2 52))⟩

/-- `num / den / 2^q` as a quotient of naturals. -/
def scaled (num den : Nat) : Int → Nat × Nat
  | .ofNat e => (num, den * Nat.pow 2 e)
  | .negSucc e => (num * Nat.pow 2 (e + 1), den)

/-- The exponent that gives the quotient a significand of 53 bits, or the least
exponent there is. -/
def exponentFor (num den : Nat) : Int :=
  let k : Int := (num.log2 : Int) - (den.log2 : Int)
  let (a, b) := scaled num den k
  max (if b ≤ a then k - 52 else k - 53) (-1074)

/-- The number nearest to `num / den`. -/
def ofRatio (negative : Bool) (num den : Nat) : Binary64 :=
  if num = 0 then assemble negative 0 0
  else
    let q := exponentFor num den
    let (a, b) := scaled num den q
    let m := roundEven a b
    if m = Nat.pow 2 53 then assemble negative (Nat.pow 2 52) (q + 1) else assemble negative m q

def ofNat (n : Nat) : Binary64 := ofRatio false n 1

/-- The product of the magnitudes, rounded once. -/
def mul (x y : Binary64) : Binary64 :=
  ofRatio false (x.ratio.1 * y.ratio.1) (x.ratio.2 * y.ratio.2)

/-- The quotient of the magnitudes, rounded once. -/
def div (x y : Binary64) : Binary64 :=
  ofRatio false (x.ratio.1 * y.ratio.2) (x.ratio.2 * y.ratio.1)

def negate (x : Binary64) : Binary64 := ⟨x.bits ^^^ 0x8000000000000000⟩

def abs (x : Binary64) : Binary64 := ⟨.ofNat (x.bits.toNat % Nat.pow 2 63)⟩

def isZero (x : Binary64) : Bool := x.significand == 0

example : ofNat 1 = ⟨0x3FF0000000000000⟩ := by decide +kernel
example : ofRatio false 1 10 = ⟨0x3FB999999999999A⟩ := by decide +kernel
example : ofNat (Nat.pow 2 64 - 1) = ⟨0x43F0000000000000⟩ := by decide +kernel
example : (div (ofNat 5) (ofNat (Nat.pow 10 308))).isZero = false := by decide +kernel

end Binary64
end RestShell
