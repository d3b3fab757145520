import RestShell.Compression.Bits

/-! Inflating deflate streams. A stream is a run of blocks, each stored, coded with
the fixed codes or with codes of its own; a symbol is a byte, the end of the block or
the length of a copy from the output so far. What lies before the output is zero. -/

namespace RestShell

namespace Inflate

inductive Fault where
  | corrupt
  | incomplete
deriving DecidableEq, Repr

/-- A code as a tree: the bits read so far lead to a symbol, to a branching or to no
code word. -/
inductive Code where
  | none
  | leaf (symbol : Nat)
  | node (zero one : Code)

/-- The code with one more word. -/
def Code.insert (symbol : Nat) : List Bool → Code → Code
  | [], _ => .leaf symbol
  | false :: r, .node z o => .node (insert symbol r z) o
  | true :: r, .node z o => .node z (insert symbol r o)
  | false :: r, _ => .node (insert symbol r .none) .none
  | true :: r, _ => .node .none (insert symbol r .none)

/-- The bits of `n` in `width` places, highest first. -/
def wordBits (width n : Nat) : List Bool := ((List.range width).map n.testBit).reverse

/-- The first code word of each length from 0 to 15: words of one length are
consecutive and follow the shorter ones. -/
def firstWords (lengths : List Nat) : List Nat :=
  ((List.range 15).foldl (fun (acc, w) n =>
    let w := 2 * (w + if n = 0 then 0 else lengths.count n)
    (acc ++ [w], w)) ([0], 0)).1

/-- Gives the symbols from `symbol` on their words. -/
def assign : List Nat → Nat → List Nat → Code → Code
  | [], _, _, code => code
  | l :: ls, symbol, next, code =>
    if l = 0 then assign ls (symbol + 1) next code
    else
      let w := next.getD l 0
      assign ls (symbol + 1) (next.set l (w + 1)) (code.insert symbol (wordBits l w))

/-- The code with the given word length of each symbol, 0 for a symbol without a
word. All words must be in use; unless `full`, a code of one word or none is also good. -/
def Code.ofLengths (full : Bool) (lengths : List Nat) : Except Fault Code :=
  let used := lengths.filter (· != 0)
  let share := used.foldl (fun sum l => sum + Nat.pow 2 (15 - l)) 0
  if share ≠ Nat.pow 2 15 ∧ (full ∨ 1 < used.length) then .error .corrupt
  else .ok (assign lengths 0 (firstWords lengths) .none)

/-- The next symbol. A missing word shows once fifteen bits are at hand. -/
def Code.read (code : Code) (bits : List Bool) : Except Fault (Nat × List Bool) :=
  match code, bits with
  | .leaf s, r => .ok (s, r)
  | .none, r => if r.length < 15 then .error .incomplete else .error .corrupt
  | .node _ _, [] => .error .incomplete
  | .node z o, b :: r => if b then o.read r else z.read r

def take (n : Nat) (bits : List Bool) : Except Fault (Nat × List Bool) :=
  match Bits.take? n bits with
  | some p => .ok p
  | none => .error .incomplete

/-- Least length and extra bits of the symbols from 257 on. -/
def lengthRows : List (Nat × Nat) :=
  [(3, 0), (4, 0), (5, 0), (6, 0), (7, 0), (8, 0), (9, 0), (10, 0), (11, 1), (13, 1), (15, 1),
    (17, 1), (19, 2), (23, 2), (27, 2), (31, 2), (35, 3), (43, 3), (51, 3), (59, 3), (67, 4),
    (83, 4), (99, 4), (115, 4), (131, 5), (163, 5), (195, 5), (227, 5), (258, 0)]

/-- Least distance and extra bits of the distance symbols. -/
def distanceRows : List (Nat × Nat) :=
  [(1, 0), (2, 0), (3, 0), (4, 0), (5, 1), (7, 1), (9, 2), (13, 2), (17, 3), (25, 3), (33, 4),
    (49, 4), (65, 5), (97, 5), (129, 6), (193, 6), (257, 7), (385, 7), (513, 8), (769, 8),
    (1025, 9), (1537, 9), (2049, 10), (3073, 10), (4097, 11), (6145, 11), (8193, 12),
    (12289, 12), (16385, 13), (24577, 13)]

/-- A number given by a row and its extra bits. -/
def rowValue (rows : List (Nat × Nat)) (i : Nat) (bits : List Bool) :
    Except Fault (Nat × List Bool) :=
  match rows[i]? with
  | none => .error .corrupt
  | some (least, extra) => (take extra bits).map fun (n, r) => (least + n, r)

/-- Appends `n` bytes, each the one `distance` back. -/
def copyBack (distance : Nat) : Nat → Array UInt8 → Array UInt8
  | 0, out => out
  | n + 1, out =>
    let b := if distance ≤ out.size then out.getD (out.size - distance) 0 else 0
    copyBack distance n (out.push b)

/-- The symbols of a block to its end; each takes a bit or more, which bounds their
number by that of the bits. -/
def symbols (lits dists : Code) : Nat → List Bool → Array UInt8 →
    Except Fault (List Bool × Array UInt8)
  | 0, _, _ => .error .incomplete
  | fuel + 1, bits, out => do
    let (s, bits) ← lits.read bits
    if s < 256 then symbols lits dists fuel bits (out.push (.ofNat s))
    else if s = 256 then return (bits, out)
    else
      let (n, bits) ← rowValue lengthRows (s - 257) bits
      let (d, bits) ← dists.read bits
      let (distance, bits) ← rowValue distanceRows d bits
      symbols lits dists fuel bits (copyBack distance n out)

/-- The code lengths of a block, `n` in all, runs written as copies. -/
def readLengths (code : Code) (n : Nat) : Nat → List Nat → List Bool →
    Except Fault (List Nat × List Bool)
  | 0, _, _ => .error .incomplete
  | fuel + 1, found, bits =>
    if n < found.length then .error .corrupt
    else if found.length = n then .ok (found.reverse, bits)
    else do
      let (s, bits) ← code.read bits
      if s < 16 then readLengths code n fuel (s :: found) bits
      else
        let (least, extra, item) ← match s, found with
          | 16, [] => .error .corrupt
          | 16, l :: _ => .ok (3, 2, l)
          | 17, _ => .ok (3, 3, 0)
          | _, _ => .ok (11, 7, 0)
        let (k, bits) ← take extra bits
        readLengths code n fuel (List.replicate (least + k) item ++ found) bits

/-- The order in which a block lists the lengths of the code for code lengths. -/
def lengthOrder : List Nat := [16, 17, 18, 0, 8, 7, 9, 6, 10, 5, 11, 4, 12, 3, 13, 2, 14, 1, 15]

def takeMany (width : Nat) : Nat → List Bool → Except Fault (List Nat × List Bool)
  | 0, bits => .ok ([], bits)
  | n + 1, bits => do
    let (x, bits) ← take width bits
    let (xs, bits) ← takeMany width n bits
    return (x :: xs, bits)

/-- The codes that a block brings with it, for literals and for distances. -/
def blockCodes (bits : List Bool) : Except Fault (Code × Code × List Bool) := do
  let (a, bits) ← take 5 bits
  let (b, bits) ← take 5 bits
  let (c, bits) ← take 4 bits
  let lits := a + 257
  let dists := b + 1
  if 286 < lits ∨ 30 < dists then throw .corrupt
  let (listed, bits) ← takeMany 3 (c + 4) bits
  let order := lengthOrder.zip listed
  let code ← Code.ofLengths true ((List.range 19).map fun s => (order.lookup s).getD 0)
  let (lengths, bits) ← readLengths code (lits + dists) (lits + dists + 1) [] bits
  let dist ← Code.ofLengths false (lengths.drop lits)
  let lit ← Code.ofLengths false (lengths.take lits)
  return (lit, dist, bits)

def fixedLengths : List Nat :=
  List.replicate 144 8 ++ List.replicate 112 9 ++ List.replicate 24 7 ++ List.replicate 8 8

/-- A stored block: its length twice, the second time inverted, and its bytes. -/
def stored (bits : List Bool) (out : Array UInt8) : Except Fault (List Bool × Array UInt8) := do
  let (n, bits) ← take 16 (Bits.align bits)
  let (m, bits) ← take 16 bits
  if n + m ≠ 0xFFFF then throw .corrupt
  let bytes := bits.take (8 * n)
  if bytes.length < 8 * n then throw .incomplete
  return (bits.drop (8 * n), (Bits.toBytes bytes).foldl Array.push out)

/-- One block; gives whether it is the last one. -/
def block (bits : List Bool) (out : Array UInt8) :
    Except Fault (Bool × List Bool × Array UInt8) := do
  let (last, bits) ← take 1 bits
  let (kind, bits) ← take 2 bits
  let (bits, out) ← match kind with
    | 0 => stored bits out
    | 1 => do
      let lit ← Code.ofLengths false fixedLengths
      let dist ← Code.ofLengths false (List.replicate 32 5)
      symbols lit dist bits.length bits out
    | 2 => do
      let (lit, dist, bits) ← blockCodes bits
      symbols lit dist bits.length bits out
    | _ => .error .corrupt
  return (last == 1, bits, out)

def blocks : Nat → List Bool → Array UInt8 → Except Fault (List Bool × Array UInt8)
  | 0, _, _ => .error .incomplete
  | fuel + 1, bits, out => do
    let (last, bits, out) ← block bits out
    if last then return (bits, out) else blocks fuel bits out

end Inflate

/-- The bytes of a deflate stream and the bytes behind its last block. -/
def inflate (bs : Bytes) : Except Inflate.Fault (Bytes × Bytes) :=
  let bits := Bits.ofBytes bs
  (Inflate.blocks (bits.length + 1) bits #[]).map fun (rest, out) =>
    (out.toList, Bits.toBytes (Bits.align rest))

end RestShell
