import RestShell.Decimal.Binary64

/-! The shortest decimal that reads back. Of all decimals that round to a given
binary number, those with the fewest digits are taken, and of these the one
nearest to it, an exact tie going to the even digit. A `NumberStyle` lays the
digits out as text. -/

namespace RestShell

/-- The decimal `digits · 10^exponent`. -/
structure Decimal where
  digits : Nat
  exponent : Int
deriving DecidableEq, Repr

namespace Decimal

/-- The decimal as a quotient of naturals. -/
def ratio (d : Decimal) : Nat × Nat :=
  match d.exponent with
  | .ofNat e => (d.digits * Nat.pow 10 e, 1)
  | .negSucc e => (d.digits, Nat.pow 10 (e + 1))

/-- The nearest binary number. -/
def toBinary (d : Decimal) : Binary64 := .ofRatio false d.ratio.1 d.ratio.2

/-- The greatest `e` with `10^e ≤ num / den`, for a positive quotient. -/
def magnitude (num den : Nat) : Int :=
  let guess : Int := ((num.log2 : Int) - (den.log2 : Int)) * 30103 / 100000
  let reaches (e : Int) : Bool :=
    match e with
    | .ofNat k => den * Nat.pow 10 k ≤ num
    | .negSucc k => den ≤ num * Nat.pow 10 (k + 1)
  if reaches (guess + 1) then guess + 1 else if reaches guess then guess else guess - 1

/-- `num / den / 10^e` as a quotient of naturals. -/
def scaled (num den : Nat) : Int → Nat × Nat
  | .ofNat k => (num, den * Nat.pow 10 k)
  | .negSucc k => (num * Nat.pow 10 (k + 1), den)

/-- The neighbours of `x` on the grid `10^e` that read back as `x`, the nearer
one first. -/
def candidates (x : Binary64) (e : Int) : List Decimal :=
  let (a, b) := scaled x.ratio.1 x.ratio.2 e
  let near := roundEven a b
  let far := if near = a / b then near + 1 else near - 1
  [Decimal.mk near e, ⟨far, e⟩].filter fun d => d.toBinary == x

/-- The first hit on the grids of `n`, `n + 1`, … digits, at most `fuel` of them. -/
def search (x : Binary64) (top : Int) : Nat → Nat → Decimal
  | _, 0 => ⟨x.ratio.1 / x.ratio.2, 0⟩
  | n, fuel + 1 =>
    match candidates x (top - n) with
    | d :: _ => d
    | [] => search x top (n + 1) fuel

/-- The shortest decimal of a positive finite number. -/
def shortest (x : Binary64) : Decimal :=
  search x (magnitude x.ratio.1 x.ratio.2) 0 17

end Decimal

/-- How digits are laid out. A number whose leading digit stands for `10^k` is
written positionally when `least ≤ k ≤ most`, with one digit and an exponent
otherwise; `point` asks for `.0` after a whole number. -/
structure NumberStyle where
  least : Option Int
  most : Option Int
  point : Bool

namespace NumberStyle

def digitChars (n : Nat) : List Char := Nat.toDigits 10 n

/-- The digits with a point after the first, unless there is only one. -/
def scientific (ds : List Char) (k : Int) : List Char :=
  let lead := match ds with
    | d :: e :: r => d :: '.' :: e :: r
    | ds => ds
  lead ++ 'e' :: (if k < 0 then '-' else '+') :: digitChars k.natAbs

/-- The digits of `digits · 10^exponent` without an exponent. -/
def positional (point : Bool) (ds : List Char) : Int → List Char
  | .ofNat e => ds ++ List.replicate e '0' ++ (if point then ['.', '0'] else [])
  | .negSucc e =>
    if e + 1 < ds.length then
      ds.take (ds.length - (e + 1)) ++ '.' :: ds.drop (ds.length - (e + 1))
    else '0' :: '.' :: List.replicate (e + 1 - ds.length) '0' ++ ds

/-- The text of a finite number. -/
def chars (f : NumberStyle) (x : Binary64) : List Char :=
  let sign := if x.isNegative then ['-'] else []
  if x.isZero then sign ++ (if f.point then ['0', '.', '0'] else ['0'])
  else
    let d := Decimal.shortest x.abs
    let all := digitChars d.digits
    let ds := (all.reverse.dropWhile (· == '0')).reverse
    let e : Int := d.exponent + ((all.length : Int) - ds.length)
    let k : Int := (ds.length : Int) - 1 + e
    let inside := f.least.all (· ≤ k) && f.most.all (k ≤ ·)
    sign ++ if inside then positional f.point ds e else scientific ds k

def text (f : NumberStyle) (x : Binary64) : String := .ofList (f.chars x)

end NumberStyle
end RestShell
