import RestShell.Compression.Fse

/-! Prefix codes given by weights. A symbol of weight `w` covers `2^(w-1)` cells of a
table of `2^width` cells, symbols of less weight first; the next `width` bits pick a
cell, and the symbol takes as many of them as its weight leaves over. -/

namespace RestShell

structure HuffmanTable where
  width : Nat
  /-- Symbol and bits taken, by cell. -/
  cells : Array (Nat × Nat)

namespace HuffmanTable

/-- The table of the weights of all symbols but the last one, whose weight fills up
the number of cells to a power of two. -/
def ofWeights? (weights : List Nat) : Option HuffmanTable :=
  let covered := (weights.filter (· != 0)).foldl (fun sum w => sum + Nat.pow 2 (w - 1)) 0
  if covered = 0 ∨ 12 < covered.log2 + 1 ∨ weights.any (12 < ·) then none
  else
    let width := covered.log2 + 1
    let left := Nat.pow 2 width - covered
    let last := left.log2
    if Nat.pow 2 last ≠ left then none
    else
      let all := (weights ++ [last + 1]).zipIdx
      let row (w : Nat) := (all.filter fun p => p.1 == w).flatMap fun p =>
        List.replicate (Nat.pow 2 (w - 1)) (p.2, width + 1 - w)
      if (all.filter fun p => p.1 == 1).length < 2 then none
      else some ⟨width, (((List.range width).flatMap fun i => row (i + 1))).toArray⟩

/-- Weights from a backward stream in which two states take turns, until one of them
has to be read from missing bits. -/
def codedWeights (t : Fse.Table) : Nat → Fse.State → Fse.State → List Bool → Option (List Nat)
  | 0, _, _, _ => none
  | fuel + 1, a, b, bits =>
    let (a', bits, missing) := t.next a bits
    if missing then some [a.symbol, b.symbol]
    else (codedWeights t fuel b a' bits).map (a.symbol :: ·)

/-- The table at the start of some bytes, and the bytes behind it. -/
def read? : Bytes → Option (HuffmanTable × Bytes)
  | [] => none
  | head :: bs =>
    let n := head.toNat
    if n < 128 then do
      let (own, rest) := (bs.take n, bs.drop n)
      if own.length < n then none
      let (log, shares, bits) ← Fse.readShares 6 255 (Bits.ofBytes own)
      let t := Fse.Table.ofShares log shares
      let bits ← Bits.backward? (Bits.toBytes (Bits.align bits))
      let (a, bits, _) := t.start bits
      let (b, bits, missing) := t.start bits
      if missing then none
      let weights ← codedWeights t 256 a b bits
      if 255 < weights.length then none
      return (← ofWeights? weights, rest)
    else do
      let count := n - 127
      let own := bs.take ((count + 1) / 2)
      if own.length < (count + 1) / 2 then none
      let weights := (own.flatMap fun b => [b.toNat / 16, b.toNat % 16]).take count
      return (← ofWeights? weights, bs.drop own.length)

/-- `n` symbols that take up the whole of a backward stream. -/
def symbols (t : HuffmanTable) : Nat → List Bool → Option (List UInt8)
  | 0, bits => if bits = [] then some [] else none
  | n + 1, bits => do
    let (cell, _, _) := Fse.takeBack t.width bits
    let (s, used) ← t.cells[cell]?
    if bits.length < used then none
    return .ofNat s :: (← symbols t n (bits.drop used))

/-- `n` symbols from the backward stream of some bytes. -/
def decode? (t : HuffmanTable) (n : Nat) (bs : Bytes) : Option Bytes := do
  t.symbols n (← Bits.backward? bs)

end HuffmanTable
end RestShell
