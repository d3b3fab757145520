import RestShell.Text.Utf8

/-! Bit streams. A byte gives its bits from the least significant one on; a number
stored in a forward stream has its least significant bit first. A backward stream is
read from its last byte on, highest bit first, and starts behind its last set bit. -/

namespace RestShell

namespace Bits

def ofByte (b : UInt8) : List Bool := (List.range 8).map b.toNat.testBit

def ofBytes (bs : Bytes) : List Bool := bs.flatMap ofByte

/-- The number whose bits are given from the lowest on. -/
def value : List Bool → Nat
  | [] => 0
  | b :: r => b.toNat + 2 * value r

/-- The number whose bits are given from the highest on. -/
def highValue (bits : List Bool) : Nat := bits.foldl (fun n b => 2 * n + b.toNat) 0

/-- A number of `n` bits and what follows it. -/
def take? (n : Nat) (bits : List Bool) : Option (Nat × List Bool) :=
  let lead := bits.take n
  if lead.length < n then none else some (value lead, bits.drop n)

/-- What follows the next byte boundary of a stream that ends on one. -/
def align (bits : List Bool) : List Bool := bits.drop (bits.length % 8)

/-- The bytes of a stream, an incomplete last one left out. -/
def toBytes : List Bool → Bytes
  | a :: b :: c :: d :: e :: f :: g :: h :: r =>
    .ofNat (value [a, b, c, d, e, f, g, h]) :: toBytes r
  | _ => []

/-- The bits of a backward stream, in reading order; `none` without a set bit in
the last byte. -/
def backward? (bs : Bytes) : Option (List Bool) :=
  let bits := (ofBytes bs).reverse
  if (bits.take 8).any id then some ((bits.dropWhile (!·)).drop 1) else none

theorem value_ofByte (b : UInt8) : value (ofByte b) = b.toNat := by
  have h : ∀ n : Fin 256, value ((List.range 8).map n.val.testBit) = n.val := by decide +kernel
  exact h ⟨b.toNat, b.toNat_lt⟩

end Bits

/-- The number in little-endian bytes. -/
def Bytes.littleEndian : Bytes → Nat
  | [] => 0
  | b :: r => b.toNat + 256 * littleEndian r

end RestShell
